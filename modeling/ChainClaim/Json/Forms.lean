import ChainClaim.Codec

/-!
# JSON forms

How claim ids, signature blocks, the words for kinds, and the settings of a codec stand in JSON. A
word may also be written as an object with that one name and nothing under it, and a record of
named parts as the array of its parts in order. Names that are not known are passed over.
-/

/-!
## JSON values

Values of the data format in which summaries are printed and settings are read, and their printed
form: an item a line, indented by two spaces a level, with the members of an object in the order
of their names.
-/

namespace ChainClaim

inductive Json where
  | null
  | bool (value : Bool)
  | int (value : Int)
  /-- A number with a fraction or an exponent. Nothing here is read from one. -/
  | fraction
  | string (value : String)
  | array (items : List Json)
  | object (members : List (String × Json))
deriving Inhabited

namespace Json

/-- An object with its members in the order of their names. -/
def ofMembers (members : List (String × Json)) : Json :=
  .object (members.mergeSort fun a b => a.1 ≤ b.1)

def member? (name : String) : List (String × Json) → Option Json :=
  List.lookup name

def ofText? : Option String → Json
  | none => .null
  | some s => .string s

/-! ### The printed form -/

/-- Four hexadecimal digits of a character below 256. -/
def controlCode (c : Char) : List Char :=
  let digit (n : Nat) : Char := if n < 10 then Char.ofNat (48 + n) else Char.ofNat (87 + n)
  ['\\', 'u', '0', '0', digit (c.toNat / 16), digit (c.toNat % 16)]

/-- A character within quotes. Quote, backslash and controls are escaped, nothing else. -/
def escape (c : Char) : List Char :=
  if c = '"' ∨ c = '\\' then ['\\', c]
  else if c = '\n' then ['\\', 'n']
  else if c = '\r' then ['\\', 'r']
  else if c = '\t' then ['\\', 't']
  else if c.toNat = 8 then ['\\', 'b']
  else if c.toNat = 12 then ['\\', 'f']
  else if c.toNat < 0x20 then controlCode c
  else [c]

def quote (s : String) : String :=
  String.ofList ('"' :: (s.toList.flatMap escape ++ ['"']))

/-- A new line, indented for a level. -/
def newline (level : Nat) : String :=
  String.ofList ('\n' :: List.replicate (2 * level) ' ')

mutual

/-- The printed form of a value that begins on a line of the given level. -/
def render (level : Nat) : Json → String
  | .null => "null"
  | .bool true => "true"
  | .bool false => "false"
  | .int n => toString n
  | .fraction => "0.0"
  | .string s => quote s
  | .array [] => "[]"
  | .array (item :: items) =>
    "[" ++ newline (level + 1) ++ render (level + 1) item ++ renderItems (level + 1) items ++
      newline level ++ "]"
  | .object [] => "\x7b\x7d"
  | .object ((name, item) :: members) =>
    "\x7b" ++ newline (level + 1) ++ quote name ++ ": " ++ render (level + 1) item ++
      renderMembers (level + 1) members ++ newline level ++ "\x7d"

def renderItems (level : Nat) : List Json → String
  | [] => ""
  | item :: items => "," ++ newline level ++ render level item ++ renderItems level items

def renderMembers (level : Nat) : List (String × Json) → String
  | [] => ""
  | (name, item) :: members =>
    "," ++ newline level ++ quote name ++ ": " ++ render level item ++
      renderMembers level members

end

def print (value : Json) : String := value.render 0

end Json

/-! ## Claim ids, blocks and settings -/

namespace Json

def word? : Json → Option String
  | .string s => some s
  | .object [(name, .null)] => some name
  | _ => none

def natBelow? (bound : Nat) : Json → Option Nat
  | .int n => if 0 ≤ n ∧ n < bound then some n.toNat else none
  | _ => none

def bytes? : Json → Option Bytes
  | .array items => items.mapM fun item => (item.natBelow? 256).map UInt8.ofNat
  | _ => none

def ofBytes (bs : Bytes) : Json := .array (bs.map fun b => .int b.toNat)

end Json

namespace ClaimId

def ofJson? (value : Json) : Option ClaimId := value.bytes?.bind ofBytes?

def toJson (id : ClaimId) : Json := .ofBytes id.bytes

end ClaimId

def KeyKind.ofJson? (value : Json) : Option KeyKind := do
  let word ← value.word?
  [nist256p, nist384p, secp256k1].find? (·.name = word)

def KeyKind.toJson (kind : KeyKind) : Json := .string kind.name

def Generation.ofJson? (value : Json) : Option Generation := do
  let word ← value.word?
  [v1, v2].find? (·.name = word)

def Generation.toJson (generation : Generation) : Json := .string generation.name

def Standing.ofJson? (value : Json) : Option Standing := do
  let word ← value.word?
  [legacy, unsigned, signed].find? (·.name = word)

def Standing.toJson (standing : Standing) : Json := .string standing.name

def Variant.ofJson? (value : Json) : Option Variant := do
  let word ← value.word?
  [stream, channel, collection, repost].find? (·.name = word)

def Variant.toJson (variant : Variant) : Json := .string variant.name

def Network.ofJson? (value : Json) : Option Network := value.word?.bind ofWord?

def Network.toJson (network : Network) : Json := .string network.word

namespace Block

/-- Reads a block, which has three parts, each of them needed. -/
def ofJson? : Json → Option Block
  | .object members => do
    let keyKind ← (Json.member? "key_type" members).bind KeyKind.ofJson?
    let signature ← (Json.member? "signature" members).bind Json.bytes?
    let channelId ← (Json.member? "channel_id" members).bind ClaimId.ofJson?
    return ⟨keyKind, signature, channelId⟩
  | .array [keyKind, signature, channelId] => do
    return ⟨← KeyKind.ofJson? keyKind, ← signature.bytes?, ← ClaimId.ofJson? channelId⟩
  | _ => none

def toJson (block : Block) : Json :=
  .ofMembers [
    ("key_type", block.keyKind.toJson),
    ("signature", .ofBytes block.signature),
    ("channel_id", block.channelId.toJson)]

end Block

namespace Codec

/-- The sizes that a setting can name. -/
def sizeBound : Nat := UInt64.size

/-- Reads settings, of which any may be missing. -/
def ofJson? : Json → Option Codec
  | .object members => do
    -- A setting that is missing has its default; one that is there has to be readable.
    let network ←
      match Json.member? "network" members with
      | none => some .mainnet
      | some value => Network.ofJson? value
    let maxSize ←
      match Json.member? "max_claim_size" members with
      | none => some chainMaxSize
      | some value => value.natBelow? sizeBound
    return { network, maxSize }
  | .array [] => some {}
  | .array [network] => do return { network := ← Network.ofJson? network }
  | .array [network, maxSize] => do
    return { network := ← Network.ofJson? network, maxSize := ← maxSize.natBelow? sizeBound }
  | _ => none

def toJson (codec : Codec) : Json :=
  .ofMembers [("network", codec.network.toJson), ("max_claim_size", .int codec.maxSize)]

end Codec

end ChainClaim
