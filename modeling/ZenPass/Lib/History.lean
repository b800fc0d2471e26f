import Mathlib.Data.List.Induction
import Mathlib.Data.List.Nodup

set_option autoImplicit false

namespace ZenPass.History

variable {ε κ : Type} {explains : List ε → ε → Prop} {events : List ε}

def Explained (explains : List ε → ε → Prop) (events : List ε) : Prop :=
  ∀ before event after, events = before ++ event :: after → explains before event

theorem explained_nil : Explained explains [] := by
  intro before event after split
  simp at split

theorem Explained.append_singleton {event : ε} (explained : Explained explains events)
    (last : explains events event) : Explained explains (events ++ [event]) := by
  intro before other after split
  induction after using List.reverseRecOn with
  | nil =>
      obtain ⟨rfl, same⟩ := List.append_inj' split rfl
      cases same
      exact last
  | append_singleton rest final _ =>
      rw [← List.cons_append, ← List.append_assoc] at split
      exact explained before other rest (List.append_inj' split rfl).1

theorem Explained.append_toList {event : Option ε} (explained : Explained explains events)
    (last : ∀ e, event = some e → explains events e) :
    Explained explains (events ++ event.toList) := by
  cases event with
  | none => simpa using explained
  | some e => exact explained.append_singleton (last e rfl)

theorem Explained.init {event : ε} (explained : Explained explains (events ++ [event])) :
    Explained explains events := by
  intro before other after split
  apply explained before other (after ++ [event])
  rw [split, List.append_assoc, List.cons_append]

theorem Explained.nodup {key : ε → Option κ} (explained : Explained explains events)
    (fresh : ∀ before event k, explains before event → key event = some k →
      k ∉ before.filterMap key) : (events.filterMap key).Nodup := by
  induction events using List.reverseRecOn with
  | nil => exact List.nodup_nil
  | append_singleton rest event ih =>
      have last := explained rest event [] rfl
      have earlier := ih explained.init
      rw [List.filterMap_append]
      cases named : key event with
      | none => simpa [named] using earlier
      | some k =>
          have single : [event].filterMap key = [k] := by simp [named]
          rw [single]
          apply earlier.append (List.nodup_singleton k)
          exact List.disjoint_singleton.mpr (fresh rest event k last named)

theorem Explained.eq_of_key {key : ε → Option κ} (explained : Explained explains events)
    (fresh : ∀ before event k, explains before event → key event = some k →
      k ∉ before.filterMap key) {first second : ε} {k : κ} (isFirst : first ∈ events)
    (isSecond : second ∈ events) (firstKey : key first = some k) (secondKey : key second = some k) :
    first = second := by
  induction events using List.reverseRecOn with
  | nil => cases isFirst
  | append_singleton rest event ih =>
      have last := fresh rest event k (explained rest event [] rfl)
      rw [List.mem_append, List.mem_singleton] at isFirst isSecond
      rcases isFirst with earlier | rfl
      · rcases isSecond with also | rfl
        · exact ih explained.init earlier also
        · exact absurd (List.mem_filterMap.mpr ⟨first, earlier, firstKey⟩) (last secondKey)
      · rcases isSecond with earlier | rfl
        · exact absurd (List.mem_filterMap.mpr ⟨second, earlier, secondKey⟩) (last firstKey)
        · rfl

end ZenPass.History
