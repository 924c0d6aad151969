/-!
# `Distinct` — lists that keep each element once

## Contents

* `addNew`, `addAllNew` — append what is not there yet;
* `mem_addAllNew`, `nodup_addAllNew` — what the list holds, and that it holds it once;
* `addAllNew_of_nodup` — new elements that differ are appended as they are;
* `addAllNew_nil`, `nodup_eraseDups`, `eraseDups_of_nodup` — the elements of a list without their repetitions.
-/

namespace DeviceConsole

variable {α : Type} [DecidableEq α]

/-- Appends an element that is not there yet. -/
def addNew (present : List α) (item : α) : List α :=
  if item ∈ present then present else present ++ [item]

/-- Appends the elements that are not there yet, in order. -/
def addAllNew (present items : List α) : List α := items.foldl addNew present

theorem mem_addNew {present : List α} {item x : α} :
    x ∈ addNew present item ↔ x ∈ present ∨ x = item := by
  unfold addNew
  split
  · next mem => exact ⟨Or.inl, fun h => h.elim id fun eq => eq ▸ mem⟩
  · simp

theorem nodup_addNew {present : List α} {item : α} (h : present.Nodup) :
    (addNew present item).Nodup := by
  unfold addNew
  split
  · exact h
  · next absent =>
    refine List.nodup_append.mpr ⟨h, List.pairwise_singleton _ _, fun a ha b hb => ?_⟩
    rw [List.mem_singleton] at hb
    exact fun eq => absent (hb ▸ eq ▸ ha)

theorem mem_addAllNew {items present : List α} {x : α} :
    x ∈ addAllNew present items ↔ x ∈ present ∨ x ∈ items := by
  induction items generalizing present with
  | nil => simp [addAllNew]
  | cons item rest ih =>
    have step : addAllNew present (item :: rest) = addAllNew (addNew present item) rest := rfl
    rw [step, ih, mem_addNew, List.mem_cons, or_assoc]

theorem nodup_addAllNew {items present : List α} (h : present.Nodup) :
    (addAllNew present items).Nodup := by
  induction items generalizing present with
  | nil => exact h
  | cons item rest ih => exact ih (nodup_addNew h)

theorem addAllNew_of_nodup {items present : List α} (h : (present ++ items).Nodup) :
    addAllNew present items = present ++ items := by
  induction items generalizing present with
  | nil => exact (List.append_nil present).symm
  | cons item rest ih =>
    have absent : item ∉ present := by
      intro mem
      exact (List.nodup_append.mp h).2.2 item mem item List.mem_cons_self rfl
    have step : addAllNew present (item :: rest) = addAllNew (present ++ [item]) rest := by
      show addAllNew (addNew present item) rest = _
      rw [addNew, if_neg absent]
    rw [List.append_cons] at h
    rw [step, ih h, List.append_assoc]
    rfl

theorem addAllNew_append (present items more : List α) :
    addAllNew present (items ++ more) = addAllNew (addAllNew present items) more := List.foldl_append

/-- Of the elements that are not there yet the first ones are appended. -/
theorem addAllNew_eq (present items : List α) :
    addAllNew present items = present ++ (items.filter (· ∉ present)).eraseDups := by
  induction items generalizing present with
  | nil => exact (List.append_nil present).symm
  | cons item rest ih =>
    have step : addAllNew present (item :: rest) = addAllNew (addNew present item) rest := rfl
    rw [step, addNew]
    by_cases known : item ∈ present
    · rw [if_pos known, ih, List.filter_cons_of_neg (by simpa using known)]
    · have others : rest.filter (· ∉ present ++ [item])
          = (rest.filter (· ∉ present)).filter fun other => !other == item := by
        rw [List.filter_filter]
        exact List.filter_congr fun other _ => by
          rw [Bool.eq_iff_iff]
          simp [and_comm]
      rw [if_neg known, ih, List.filter_cons_of_pos (by simpa using known), List.eraseDups_cons, others,
        List.append_assoc, List.singleton_append]

theorem addAllNew_nil (items : List α) : addAllNew [] items = items.eraseDups := by
  rw [addAllNew_eq, List.nil_append, List.filter_eq_self.mpr (by simp)]

theorem nodup_eraseDups (items : List α) : items.eraseDups.Nodup := by
  rw [← addAllNew_nil]
  exact nodup_addAllNew List.nodup_nil

theorem eraseDups_of_nodup {items : List α} (h : items.Nodup) : items.eraseDups = items := by
  rw [← addAllNew_nil, addAllNew_of_nodup (by simpa using h), List.nil_append]

end DeviceConsole
