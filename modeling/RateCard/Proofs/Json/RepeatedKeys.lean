import Mathlib.Data.List.Induction
import RateCard.Proofs.Json.Readable

/-!
# Repeated keys

An object in which keys are repeated has each of them once, at the place where it was first written,
with the value that was written last.
-/
namespace RateCard.Json.Members

theorem ofWritten_concat (written : Members) (m : String × Json) :
    ofWritten (written ++ [m]) = put m.1 m.2 (ofWritten written) := by
  rw [ofWritten, List.foldl_append]
  rfl

theorem get?_put (key k : String) (value : Json) (ms : Members) :
    get? k (put key value ms) = if k = key then some value else get? k ms := by
  induction ms with
  | nil =>
    simp only [put, get?]
    by_cases h : k = key
    · rw [if_pos h.symm, if_pos h]
    · rw [if_neg (Ne.symm h), if_neg h]
  | cons m ms ih =>
    rw [put]
    by_cases hm : m.1 = key
    · rw [if_pos hm, get?, get?, hm]
      by_cases h : k = key
      · rw [if_pos h.symm, if_pos h]
      · rw [if_neg (Ne.symm h), if_neg h, if_neg (Ne.symm h)]
    · rw [if_neg hm, get?, get?, ih]
      by_cases h : m.1 = k
      · rw [if_pos h, if_pos h, if_neg (h ▸ hm)]
      · rw [if_neg h, if_neg h]

theorem mem_of_get? {key : String} {ms : Members} {x : Json} (h : get? key ms = some x) :
    (key, x) ∈ ms := by
  induction ms with
  | nil => simp [get?] at h
  | cons m ms ih =>
    rw [get?] at h
    split_ifs at h with hk
    · simp only [Option.some.injEq] at h
      simp [← hk, ← h]
    · exact List.mem_cons_of_mem _ (ih h)

theorem get?_of_mem {key : String} {value : Json} {ms : Members} (h : (keys ms).Nodup)
    (hm : (key, value) ∈ ms) : get? key ms = some value := by
  induction ms with
  | nil => cases hm
  | cons m ms ih =>
    rw [keys_cons, List.nodup_cons] at h
    rw [get?]
    rcases List.mem_cons.1 hm with rfl | hm
    · rw [if_pos rfl]
    · have hkey : key ∈ keys ms := List.mem_map.2 ⟨(key, value), hm, rfl⟩
      rw [if_neg fun he : m.1 = key => h.1 (he ▸ hkey), ih h.2 hm]

/-- The order of members with distinct keys decides no look-up. -/
theorem get?_of_perm {ms ns : Members} (h : (keys ms).Nodup) (hperm : ms.Perm ns) (key : String) :
    get? key ms = get? key ns := by
  have h' : (keys ns).Nodup := (hperm.map Prod.fst).nodup_iff.1 h
  refine Option.ext fun value => ⟨fun hget => ?_, fun hget => ?_⟩
  · exact get?_of_mem h' (hperm.mem_iff.1 (mem_of_get? hget))
  · exact get?_of_mem h (hperm.mem_iff.2 (mem_of_get? hget))

/-- Keys stand where they were first written. -/
theorem keys_ofWritten (written : Members) :
    keys (ofWritten written) = (written.map Prod.fst).eraseDups := by
  induction written using List.reverseRecOn with
  | nil => rfl
  | append_singleton written m ih =>
    rw [ofWritten_concat, keys_put, ih, List.map_append, List.eraseDups_append]
    by_cases h : m.1 ∈ written.map Prod.fst
    · simp [List.removeAll, h]
    · simp [List.removeAll, h, List.eraseDups_cons]

/-- Values are those that were written last. -/
theorem get?_ofWritten (key : String) (written : Members) :
    get? key (ofWritten written) = written.reverse.lookup key := by
  induction written using List.reverseRecOn with
  | nil => rfl
  | append_singleton written m ih =>
    rw [ofWritten_concat, get?_put, ih, List.reverse_concat, List.lookup_cons]
    by_cases h : key = m.1
    · simp [h]
    · rw [if_neg h, beq_false_of_ne h]

end RateCard.Json.Members
