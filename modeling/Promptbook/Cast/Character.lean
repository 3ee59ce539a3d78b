import Promptbook.Vocabulary

/-!
# Characters and their directory

Who may appear in a beat.  A directory finds a character by id; of several characters with one id
it knows the first.
-/

namespace Promptbook

/-- The gender a character's sprite is drawn with. -/
inductive Gender where
  | male
  | female
  deriving DecidableEq, Repr

instance : Vocabulary Gender where
  title := "Gender"
  all := [.male, .female]
  word
    | .male => "MALE"
    | .female => "FEMALE"
  mem_all t := by cases t <;> decide
  nodup := by decide

/-- What has to be known of a character to place it in a beat. -/
structure Character where
  id : Spelling
  name : Spelling
  gender : Gender
  deriving DecidableEq, Repr

/-- The characters that are known, in order. -/
abbrev Directory := List Character

namespace Directory

/-- The first character with an id. -/
def lookup? (d : Directory) (id : Spelling) : Option Character := d.find? fun c => c.id == id

/-- The characters that can be looked up: of each id the first. -/
def entries : Directory → Directory
  | [] => []
  | c :: d => c :: (entries d).filter fun e => e.id ≠ c.id

theorem lookup?_cons (c : Character) (d : Directory) (id : Spelling) :
    lookup? (c :: d) id = if c.id = id then some c else lookup? d id := by
  by_cases h : c.id = id <;> simp [lookup?, h]

theorem id_of_lookup? {d : Directory} {id : Spelling} {c : Character}
    (h : lookup? d id = some c) : c.id = id := by
  simpa using List.find?_some h

end Directory

end Promptbook
