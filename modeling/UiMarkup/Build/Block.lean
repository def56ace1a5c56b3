namespace UiMarkup

inductive Block
  | none | api | consts | gradients | stops | styles | fonts | images | subjects | animation
  | includeTimeline | timeline | view
deriving DecidableEq, Repr, Inhabited

namespace Block

def begun? (s : Block) (tag : String) : Option Block :=
  match tag with
  | "api"              => some .api
  | "gradients"        => some .gradients
  | "stop"             => if s = .gradients then some .stops else Option.none
  | "consts"           => some .consts
  | "styles"           => some .styles
  | "images"           => some .images
  | "fonts"            => some .fonts
  | "subjects"         => some .subjects
  | "animation"        => some .animation
  | "include_timeline" => some .includeTimeline
  | "timeline"         => some .timeline
  | "view"             => some .view
  | _                  => Option.none

def start (s : Block) (tag : String) : Block :=
  (s.begun? tag).getD s

-- The tags whose end leaves every block.
def leaving : List String :=
  ["params", "consts", "gradients", "styles", "view"]

def stop (s : Block) (tag : String) : Block :=
  if tag ∈ leaving then .none
  else if s = .stops ∧ tag ≠ "stop" then .gradients
  else s

end Block

end UiMarkup
