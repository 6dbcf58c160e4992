/-
# Overlay.Proofs.Json.Quoted -- what a JSON string says

`Json.Spelled` is the grammar of the characters between the quotation marks of a JSON
string, in the one spelling that is used here: a character stands for itself unless it is
a quotation mark, a backslash or a control, and those follow a backslash, by a letter where
there is one and by their code otherwise.

Every text is spelled as it is written (`quotes_quoted`).  A string says one text, and where
it ends is seen without looking further (`Spelled.unique`), so what stands in front of a text
in quotation marks and what follows it cannot be mistaken for a part of it.
-/
import Overlay.Json

namespace Overlay.Json

set_option autoImplicit false

/-- The letters that stand for characters after a backslash. -/
def letters : List (Char × Char) :=
  [('"', '"'), ('\\', '\\'), ('\n', 'n'), ('\r', 'r'), ('\t', 't'), ('\x08', 'b'), ('\x0c', 'f')]

/-- The characters of the second list, between quotation marks, spell the text of the first. -/
inductive Spelled : List Char → List Char → Prop where
  | nil : Spelled [] []
  | plain {c : Char} {text spelling : List Char} (visible : 0x20 ≤ c.toNat) (mark : c ≠ '"')
      (backslash : c ≠ '\\') (rest : Spelled text spelling) : Spelled (c :: text) (c :: spelling)
  | letter {c letter : Char} {text spelling : List Char} (known : (c, letter) ∈ letters)
      (rest : Spelled text spelling) : Spelled (c :: text) ('\\' :: letter :: spelling)
  | code {c : Char} {text spelling : List Char} (control : c.toNat < 0x20)
      (unlettered : ∀ letter, (c, letter) ∉ letters) (rest : Spelled text spelling) :
      Spelled (c :: text) ('\\' :: 'u' :: '0' :: '0' :: Nat.digitChar (c.toNat / 16) ::
        Nat.digitChar (c.toNat % 16) :: spelling)

/-- The string, with its quotation marks, says the text. -/
def Quotes (text string : String) : Prop :=
  ∃ spelling, Spelled text.toList spelling ∧ string = String.ofList ('"' :: spelling ++ ['"'])

/-! ## Texts as they are written -/

theorem hexDigits_control (n : Nat) (control : n < 0x20) :
    Octets.hexDigits [UInt8.ofNat n] = [Nat.digitChar (n / 16), Nat.digitChar (n % 16)] := by
  revert n
  decide

theorem Spelled.escape {text spelling : List Char} (rest : Spelled text spelling) (c : Char) :
    Spelled (c :: text) (Json.escape c ++ spelling) := by
  have same : ∀ code : Char, c.toNat = code.toNat → c = code := fun _ => Char.toNat_inj.1
  unfold Json.escape
  split
  · next mark => exact .letter (by simp [mark, letters]) rest
  split
  · next backslash => exact .letter (by simp [backslash, letters]) rest
  split
  · next feed => exact .letter (by simp [feed, letters]) rest
  split
  · next carriage => exact .letter (by simp [carriage, letters]) rest
  split
  · next tab => exact .letter (by simp [tab, letters]) rest
  split
  · next back => exact .letter (by simp [same '\x08' back, letters]) rest
  split
  · next form => exact .letter (by simp [same '\x0c' form, letters]) rest
  split
  · next mark backslash feed carriage tab back form control =>
    rw [hexDigits_control _ control]
    refine .code control ?_ rest
    have noBack : c ≠ '\x08' := fun h => back (congrArg Char.toNat h)
    have noForm : c ≠ '\x0c' := fun h => form (congrArg Char.toNat h)
    simp [letters, mark, backslash, feed, carriage, tab, noBack, noForm]
  · next mark backslash _ _ _ _ _ visible =>
    exact .plain (by omega) mark backslash rest

theorem spelled_flatMap_escape (text : List Char) : Spelled text (text.flatMap escape) := by
  induction text with
  | nil => exact .nil
  | cons c text ih => exact ih.escape c

theorem quotes_quoted (text : String) : Quotes text (quoted text) :=
  ⟨_, spelled_flatMap_escape text.toList, rfl⟩

/-! ## Strings as they are read -/

/-- A letter after a backslash stands for one character. -/
theorem letters_unique {c d letter : Char} (first : (c, letter) ∈ letters)
    (second : (d, letter) ∈ letters) : c = d := by
  have apart : letters.all (fun a => letters.all fun b => a.2 != b.2 || a.1 == b.1) = true := by
    decide
  simpa using List.all_eq_true.1 (List.all_eq_true.1 apart _ first) _ second

/-- The letter that a code starts with stands for nothing by itself. -/
theorem u_not_mem_letters (c : Char) : (c, 'u') ∉ letters := by
  simp [letters]

theorem digitChar_inj {m n : Nat} (first : m < 16) (second : n < 16)
    (same : Nat.digitChar m = Nat.digitChar n) : m = n := by
  have apart : ∀ m < 16, ∀ n < 16, Nat.digitChar m = Nat.digitChar n → m = n := by decide
  exact apart m first n second same

/-- Up to the quotation mark that ends it, a string says one text. -/
theorem Spelled.unique {text text' spelling spelling' after after' : List Char}
    (first : Spelled text spelling) (second : Spelled text' spelling')
    (same : spelling ++ '"' :: after = spelling' ++ '"' :: after') :
    text = text' ∧ after = after' := by
  induction first generalizing text' spelling' with
  | nil =>
      cases second with
      | nil => exact ⟨rfl, by simpa using same⟩
      | plain visible mark backslash rest => simp [mark.symm] at same
      | letter known rest => simp at same
      | code control unlettered rest => simp at same
  | @plain c text spelling visible mark backslash rest ih =>
      cases second with
      | nil => simp [mark] at same
      | plain visible' mark' backslash' rest' =>
          simp only [List.cons_append, List.cons.injEq] at same
          obtain ⟨rfl, rfl⟩ := ih rest' same.2
          exact ⟨by rw [same.1], rfl⟩
      | letter known rest' => simp [backslash] at same
      | code control unlettered rest' => simp [backslash] at same
  | @letter c letter text spelling known rest ih =>
      cases second with
      | nil => simp at same
      | plain visible mark backslash rest' => simp [backslash.symm] at same
      | letter known' rest' =>
          simp only [List.cons_append, List.cons.injEq, true_and] at same
          obtain ⟨rfl, same⟩ := same
          obtain ⟨rfl, rfl⟩ := ih rest' same
          exact ⟨by rw [letters_unique known known'], rfl⟩
      | code control unlettered rest' =>
          simp only [List.cons_append, List.cons.injEq, true_and] at same
          obtain ⟨rfl, -⟩ := same
          exact absurd known (u_not_mem_letters c)
  | @code c text spelling control unlettered rest ih =>
      cases second with
      | nil => simp at same
      | plain visible mark backslash rest' => simp [backslash.symm] at same
      | @letter d letter _ _ known rest' =>
          simp only [List.cons_append, List.cons.injEq, true_and] at same
          obtain ⟨rfl, -⟩ := same
          exact absurd known (u_not_mem_letters d)
      | @code d _ _ control' unlettered' rest' =>
          simp only [List.cons_append, List.cons.injEq, true_and] at same
          obtain ⟨high, low, same⟩ := same
          obtain ⟨rfl, rfl⟩ := ih rest' same
          have high := digitChar_inj (by omega) (by omega) high
          have low := digitChar_inj (by omega) (by omega) low
          have whole : c.toNat = d.toNat := by omega
          exact ⟨by rw [Char.toNat_inj.1 whole], rfl⟩

/-- A string starts with a quotation mark. -/
theorem Quotes.head {text string : String} (quotes : Quotes text string) :
    string.toList.head? = some '"' := by
  obtain ⟨spelling, -, rfl⟩ := quotes
  simp

theorem Quotes.unique {text text' string : String} (first : Quotes text string)
    (second : Quotes text' string) : text = text' := by
  obtain ⟨spelling, spelled, rfl⟩ := first
  obtain ⟨spelling', spelled', same⟩ := second
  have ends : spelling ++ '"' :: [] = spelling' ++ '"' :: [] := by
    simpa using congrArg String.toList same
  exact String.toList_inj.1 (spelled.unique spelled' ends).1

end Overlay.Json
