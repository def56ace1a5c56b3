import UiMarkup.Text.Split

namespace UiMarkup

class Vocabulary (α : Type) where
  -- What a diagnostic calls the type.
  title : String
  values : List α
  token : α → String

namespace Vocabulary

variable {α : Type} [Vocabulary α]

def ofToken? (word : String) : Option α :=
  (values (α := α)).find? (token · == word)

def label (a : α) : String :=
  Text.camel (token a)

theorem token_of_ofToken? {word : String} {a : α} (h : ofToken? word = some a) :
    token a = word := by
  have := List.find?_some h
  simpa using this

end Vocabulary

end UiMarkup
