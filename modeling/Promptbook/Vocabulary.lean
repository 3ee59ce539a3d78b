import Promptbook.Text.Quoted

/-!
# Vocabularies

Types with a fixed list of values, each written as one word.  Words identify values, so reading a
word gives back the value that was written.
-/

namespace Promptbook

/-- Where no two values share a key, a key finds its value. -/
theorem find?_of_nodup {τ κ : Type} [DecidableEq κ] {key : τ → κ} {ts : List τ}
    (h : (ts.map key).Nodup) {t : τ} (ht : t ∈ ts) :
    ts.find? (fun u => key u == key t) = some t := by
  induction ts with
  | nil => cases ht
  | cons u us ih =>
    rw [List.map_cons, List.nodup_cons] at h
    rcases List.mem_cons.1 ht with rfl | ht
    · simp
    · have hne : key u ≠ key t := fun e => h.1 (e ▸ List.mem_map_of_mem ht)
      simp [hne, ih h.2 ht]

/-- A fixed list of values and the word for each of them. -/
class Vocabulary (τ : Type) where
  /-- The name by which messages speak of the vocabulary. -/
  title : String
  /-- The values in the order in which messages list them. -/
  all : List τ
  word : τ → String
  mem_all : ∀ t, t ∈ all
  nodup : (all.map word).Nodup

/-- A word that a vocabulary does not have. -/
structure UnknownWord where
  word : Spelling
  title : String
  deriving DecidableEq, Repr

/-- The wording of an unknown word. -/
def UnknownWord.message (u : UnknownWord) : String :=
  Text.quoted u.word ++ " is not a valid " ++ u.title

namespace Vocabulary

variable {τ : Type}

/-- The words of a vocabulary in order. -/
def words (v : Vocabulary τ) : List String := v.all.map v.word

/-- The value of a word. -/
def ofWord? (v : Vocabulary τ) (s : String) : Option τ := v.all.find? fun t => v.word t == s

/-- The value of a word, or the refusal of a word that has none. -/
def parse (τ : Type) [v : Vocabulary τ] (s : Spelling) : Except UnknownWord τ :=
  (s.text?.bind v.ofWord?).elim (.error ⟨s, v.title⟩) .ok

/-- Reading the word of a value gives the value. -/
theorem ofWord?_word (v : Vocabulary τ) (t : τ) : v.ofWord? (v.word t) = some t :=
  find?_of_nodup v.nodup (v.mem_all t)

theorem word_of_ofWord? {v : Vocabulary τ} {s : String} {t : τ} (h : v.ofWord? s = some t) :
    v.word t = s := by
  have hword := List.find?_some h
  exact eq_of_beq hword

end Vocabulary

end Promptbook
