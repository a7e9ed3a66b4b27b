/-!
# Splitting texts

A text cut at every occurrence of a character, and the search for a text in another.
-/
namespace PasskeyConsent.Text

/-- The pieces between the occurrences of `sep`: one more than there are occurrences. -/
def splitAt (sep : Char) : List Char → List (List Char)
  | [] => [[]]
  | c :: rest =>
    if c = sep then [] :: splitAt sep rest
    else
      match splitAt sep rest with
      | [] => [[c]]
      | piece :: more => (c :: piece) :: more

/-- Whether `part` occurs in the characters. -/
def occurs (part : List Char) : List Char → Bool
  | [] => part.isEmpty
  | c :: rest => part.isPrefixOf (c :: rest) || occurs part rest

theorem occurs_iff {part : List Char} : ∀ {cs : List Char}, occurs part cs = true ↔ part <:+: cs
  | [] => by rw [occurs, List.isEmpty_iff, List.infix_nil]
  | c :: rest => by rw [occurs, Bool.or_eq_true, List.isPrefixOf_iff_prefix, occurs_iff, List.infix_cons_iff]

def contains (part s : String) : Bool := occurs part.toList s.toList

def join (sep : String) : List String → String
  | [] => ""
  | [s] => s
  | s :: rest => s ++ sep ++ join sep rest

end PasskeyConsent.Text
