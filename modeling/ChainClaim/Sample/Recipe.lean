import ChainClaim.Draft

/-!
# Recipes

The parts of a claim for trials, of any variant, and the draft that they make.
-/

namespace ChainClaim

structure Recipe where
  variant : Variant
  title : String := ""
  description : String := ""
  tags : List String := []
  languages : List Language := []
  locations : List Location := []
  thumbnail : Option String := none
  /-- The author of a stream and the website of a channel; nothing for other variants. -/
  detail : String := ""
  /-- The hash of the claim that a repost is of. -/
  target : Bytes := []

namespace Recipe

def opening (recipe : Recipe) : Draft :=
  match recipe.variant with
  | .stream => (Draft.start .stream).call (.author recipe.detail)
  | .channel => (Draft.start .channel).call (.websiteUrl recipe.detail)
  | .collection => .start .collection
  | .repost => .repost recipe.target

def calls (recipe : Recipe) : List Draft.Call :=
  [.title recipe.title, .description recipe.description] ++ recipe.tags.map .tag ++
    recipe.languages.map .language ++ recipe.locations.map .location ++
    recipe.thumbnail.toList.map .thumbnail

def finish (recipe : Recipe) : Except Error Record :=
  (recipe.opening.calls recipe.calls).finish

end Recipe

end ChainClaim
