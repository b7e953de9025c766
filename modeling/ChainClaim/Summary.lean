import ChainClaim.Codec
import ChainClaim.Json.Forms

/-!
# Summaries

What is shown of a claim that was read: what every claim has, its signature, and what its variant
has. A fee is shown with its address, or with why it has none that can be shown; a channel with its
key in compressed form where the key is a point of the curve.
-/

namespace ChainClaim.Summary

def lowerCase (s : String) : String := s.map Char.toLower

def upperCase (s : String) : String := s.map Char.toUpper

def signatureMembers (record : Record) : List (String × Json) :=
  match record.signature with
  | none => []
  | some block => [
      ("signing_channel", .string block.channelId.toHex),
      ("signature", .string (Hex.encode block.signature))]

def feeMembers (codec : Codec) (record : Record) (fee : FeeView) : List (String × Json) := [
  ("currency", .string (upperCase fee.currency.name)),
  ("amount", .int fee.baseAmount.toNat),
  match codec.feeAddress record with
  | .ok address => ("address", .ofText? address)
  | .error fault => ("address_error", .string fault.message)]

def streamMembers (codec : Codec) (record : Record) : List (String × Json) :=
  match record.stream with
  | .error _ => []
  | .ok stream =>
    let fee : List (String × Json) :=
      match stream.fee with
      | none => []
      | some fee => [("fee", .ofMembers (feeMembers codec record fee))]
    let releaseTime : Json :=
      match stream.releaseTime with
      | none => .null
      | some seconds => .int seconds.toInt
    [("stream", .ofMembers (fee ++ [
      ("author", .string stream.author),
      ("license", .string stream.license),
      ("media_type", .string stream.mediaType),
      ("sd_hash", .string (Hex.encode stream.sdHash)),
      ("release_time", releaseTime)]))]

def channelMembers (record : Record) : List (String × Json) :=
  match record.channel with
  | .error _ => []
  | .ok channel =>
    let compressed : List (String × Json) :=
      match PublicKey.compressedOfDer channel.publicKey with
      | .error _ => []
      | .ok octets => [("compressed_key", .string (Hex.encode octets))]
    [("channel", .ofMembers (compressed ++ [
      ("public_key", .string (Hex.encode channel.publicKey)),
      ("key_type", .ofText? (channel.keyKind.map (·.name))),
      ("website_url", .string channel.websiteUrl),
      ("email", .string channel.email),
      ("cover_url", .ofText? channel.coverUrl)]))]

def ofRecord (codec : Codec) (record : Record) : Json :=
  .ofMembers ([
    ("variant", .string record.variant.name),
    ("version", .string (lowerCase record.standing.name)),
    ("title", .string record.title),
    ("description", .string record.description),
    ("tags", .array (record.tags.map .string)),
    ("thumbnail", .ofText? record.thumbnail),
    ("mature", .bool record.isMature)] ++
    signatureMembers record ++ streamMembers codec record ++ channelMembers record)

/-- What is shown of a channel key: its compressed octets and the address that it is paid at. -/
def ofKey (codec : Codec) (der : Bytes) : Except Error Json := do
  let octets ← PublicKey.compressedOfDer der
  let address ← codec.network.addressText (codec.network.keyAddressBytes octets)
  return .ofMembers [
    ("compressed", .string (Hex.encode octets)),
    ("address", .string address),
    ("network", .string codec.network.name)]

end ChainClaim.Summary
