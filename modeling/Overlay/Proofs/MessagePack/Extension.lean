/-
# Overlay.Proofs.MessagePack.Extension -- what more octets can change

A reader that has only the front of a message may know enough already.  What it reads off
the front it reads off the whole message, and what it refuses there it refuses, but for two
things: an object that is cut off, and a count or a size above the bound that the length of
the message sets (`Fault.isOpen`).

`Extends more before after` says so of two outcomes, that of some octets and that of the
same octets with `more` after them, under a bound that is no lower.  It passes from the
steps of a reader to the reader, and from the contents of containers to the containers
(`readItem_extends`).
-/
import Overlay.MessagePack.Reader

namespace Overlay.MessagePack

set_option autoImplicit false

open Overlay.Octets (split? split?_eq_some_iff)

/-- Can the fault be mended by more octets?  More octets also raise the bound on counts. -/
def Fault.isOpen : Fault → Bool
  | .truncated | .tooManyItems _ | .tooManyPairs _ | .oversizedExt => true
  | _ => false

/-- The outcome `after` is what becomes of the outcome `before` once `more` octets follow. -/
inductive Extends {α : Type} (more : Octets) : (before after : Step α) → Prop where
  | read {one : α} {rest : Octets} : Extends more (.ok (one, rest)) (.ok (one, rest ++ more))
  | refused {fault : Fault} (closed : fault.isOpen = false) :
      Extends more (.error fault) (.error fault)
  | waiting {fault : Fault} (opened : fault.isOpen = true) (after : Step α) :
      Extends more (.error fault) after

variable {α : Type} {more : Octets}

/-! ## The parts of an object -/

theorem split?_append_of_some {n : Nat} {octets front rest : Octets}
    (cut : split? n octets = some (front, rest)) :
    split? n (octets ++ more) = some (front, rest ++ more) := by
  obtain ⟨rfl, sized⟩ := split?_eq_some_iff.1 cut
  exact split?_eq_some_iff.2 ⟨List.append_assoc .., sized⟩

theorem readHead_extends (octets : Octets) :
    Extends more (readHead octets) (readHead (octets ++ more)) := by
  cases octets with
  | nil => exact .waiting rfl _
  | cons first rest =>
      simp only [readHead, List.cons_append]
      cases lead first with
      | alone head => exact .read
      | reserved => exact .refused rfl
      | sized width head =>
          dsimp only
          cases cut : split? width rest with
          | none => exact .waiting rfl _
          | some parts =>
              obtain ⟨digits, after⟩ := parts
              rw [split?_append_of_some cut]
              exact .read

theorem readSized_extends {size : Nat} {make : Octets → Except Fault Item} {octets : Octets}
    (closed : ∀ data fault, make data = .error fault → fault.isOpen = false) :
    Extends more (readSized size make octets) (readSized size make (octets ++ more)) := by
  unfold readSized
  cases cut : split? size octets with
  | none => exact .waiting rfl _
  | some parts =>
      obtain ⟨data, after⟩ := parts
      rw [split?_append_of_some cut]
      dsimp only
      cases made : make data with
      | ok item => exact .read
      | error fault => exact .refused (closed data fault made)

theorem textOf_closed (data : Octets) (fault : Fault) (h : textOf data = .error fault) :
    fault.isOpen = false := by
  unfold textOf at h
  split at h
  · cases h
  · cases h
    rfl

theorem timeOf_closed (data : Octets) (fault : Fault) (h : timeOf data = .error fault) :
    fault.isOpen = false := by
  have dated {seconds : Int} {nanoseconds : Nat}
      (h : (if nanoseconds < 10 ^ 9 then .ok (.time seconds nanoseconds)
        else .error .nanoseconds : Except Fault Item) = .error fault) : fault.isOpen = false := by
    split at h
    · cases h
    · cases h
      rfl
  unfold timeOf at h
  dsimp only at h
  split at h
  · exact dated h
  · exact dated h
  · exact dated h
  · cases h
    rfl

theorem extOf_closed (octets : Octets) (fault : Fault) (h : extOf octets = .error fault) :
    fault.isOpen = false := by
  unfold extOf at h
  split at h
  · cases h
    rfl
  · split at h
    · exact timeOf_closed _ _ h
    · split at h
      · cases h
      · cases h
        rfl

theorem overflows_mono {limit limit' size : Nat} (higher : limit ≤ limit')
    (h : overflows limit size = false) : overflows limit' size = false := by
  simp only [overflows, Bool.and_eq_false_iff, decide_eq_false_iff_not] at h ⊢
  exact h.imp_right fun room => by omega

/-! ## Several things, one after another -/

theorem readMany_extends {readOne readOne' : Octets → Step α}
    (each : ∀ octets, Extends more (readOne octets) (readOne' (octets ++ more)))
    (count : Nat) (read : List α) (octets : Octets) :
    Extends more (readMany readOne count read octets)
      (readMany readOne' count read (octets ++ more)) := by
  induction count generalizing read octets with
  | zero => exact .read
  | succ count ih =>
      unfold readMany
      refine (each octets).casesOn ?_ .refused fun opened _ => .waiting opened _
      intro one rest
      exact ih (one :: read) rest

theorem readPair_extends {readOne readOne' : Octets → Step Item}
    (each : ∀ octets, Extends more (readOne octets) (readOne' (octets ++ more)))
    (octets : Octets) :
    Extends more (readPair readOne octets) (readPair readOne' (octets ++ more)) := by
  unfold readPair
  refine (each octets).casesOn ?_ .refused fun opened _ => .waiting opened _
  intro key rest
  dsimp only
  refine (each rest).casesOn ?_ .refused fun opened _ => .waiting opened _
  intro value rest
  cases key.isContainer with
  | true => exact .refused rfl
  | false => exact .read

/-! ## Items -/

/-- The contents of containers are extended, as far as there are any. -/
def ExtendsInside (more : Octets) : (inner inner' : Option (Octets → Step Item)) → Prop :=
  Option.Rel fun readOne readOne' =>
    ∀ octets, Extends more (readOne octets) (readOne' (octets ++ more))

theorem readWith_extends {limit limit' : Nat} (higher : limit ≤ limit')
    {inner inner' : Option (Octets → Step Item)} (inside : ExtendsInside more inner inner')
    (octets : Octets) :
    Extends more (readWith limit inner octets) (readWith limit' inner' (octets ++ more)) := by
  unfold readWith
  refine (readHead_extends octets).casesOn ?_ .refused fun opened _ => .waiting opened _
  intro head rest
  cases head with
  | nil => exact .read
  | bool value => exact .read
  | int value => exact .read
  | float bits => exact .read
  | str size => exact readSized_extends textOf_closed
  | bin size => exact readSized_extends (by rintro data fault ⟨⟩)
  | ext size =>
      dsimp only
      cases large : overflows limit size with
      | true => exact .waiting rfl _
      | false =>
          rw [overflows_mono higher large]
          exact readSized_extends extOf_closed
  | array count =>
      cases inside with
      | none => exact .refused rfl
      | some each =>
          dsimp only
          by_cases bounded : limit < count
          · rw [if_pos bounded]
            exact .waiting rfl _
          · rw [if_neg bounded, if_neg (by omega)]
            refine (readMany_extends each count [] rest).casesOn ?_ .refused
              fun opened _ => .waiting opened _
            intro items rest
            exact .read
  | map count =>
      cases inside with
      | none => exact .refused rfl
      | some each =>
          dsimp only
          by_cases bounded : limit / 2 < count
          · rw [if_pos bounded]
            exact .waiting rfl _
          · rw [if_neg bounded, if_neg (by omega)]
            refine (readMany_extends (readPair_extends each) count [] rest).casesOn ?_ .refused
              fun opened _ => .waiting opened _
            intro entries rest
            exact .read

/-- What more octets make of an object, under a bound on counts that is no lower. -/
theorem readItem_extends {limit limit' : Nat} (higher : limit ≤ limit') (depth : Nat)
    (octets more : Octets) :
    Extends more (readItem limit depth octets) (readItem limit' depth (octets ++ more)) := by
  induction depth generalizing octets with
  | zero => exact readWith_extends higher .none octets
  | succ depth ih => exact readWith_extends higher (.some ih) octets

end Overlay.MessagePack
