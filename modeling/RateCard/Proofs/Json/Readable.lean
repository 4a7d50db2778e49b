import Mathlib.Data.List.Nodup
import RateCard.Proofs.Bind
import RateCard.Proofs.Json.Grammar

/-!
# The form of decoded documents

Decoding gives objects distinct keys, none of them started by the key of a spelled number, and keeps
a bound on the nesting. Such documents are the ones whose printed forms are read back.
-/
namespace RateCard.Json

namespace Members

@[simp] theorem keys_cons (m : String × Json) (ms : Members) : keys (m :: ms) = m.1 :: keys ms :=
  rfl

theorem put_new {key : String} {value : Json} {ms : Members} (h : key ∉ keys ms) :
    put key value ms = ms ++ [(key, value)] := by
  induction ms with
  | nil => rfl
  | cons m ms ih =>
    simp only [keys_cons, List.mem_cons, not_or] at h
    rw [put, if_neg (Ne.symm h.1), ih h.2, List.cons_append]

theorem keys_put (key : String) (value : Json) (ms : Members) :
    keys (put key value ms) = if key ∈ keys ms then keys ms else keys ms ++ [key] := by
  induction ms with
  | nil => rfl
  | cons m ms ih =>
    rw [put]
    by_cases hm : m.1 = key
    · simp [hm]
    · rw [if_neg hm, keys_cons, ih, keys_cons]
      by_cases hk : key ∈ keys ms <;> simp [hk, Ne.symm hm]

theorem nodup_keys_put {key : String} {value : Json} {ms : Members} (h : (keys ms).Nodup) :
    (keys (put key value ms)).Nodup := by
  rw [keys_put]
  split_ifs with hk
  · exact h
  · simpa using h.concat hk

theorem mem_put {key : String} {value : Json} {ms : Members} {m : String × Json}
    (h : m ∈ put key value ms) : m ∈ ms ∨ m = (key, value) := by
  induction ms with
  | nil => simpa [put] using h
  | cons n ms ih =>
    rw [put] at h
    split_ifs at h with hn
    · rcases List.mem_cons.1 h with rfl | h
      · exact .inr (by rw [hn])
      · exact .inl (List.mem_cons_of_mem _ h)
    · rcases List.mem_cons.1 h with rfl | h
      · exact .inl (by simp)
      · rcases ih h with h | h
        · exact .inl (List.mem_cons_of_mem _ h)
        · exact .inr h

theorem head_put (key : String) (value : Json) {ms : Members} (h : ms ≠ []) :
    (put key value ms).head?.map Prod.fst = ms.head?.map Prod.fst := by
  cases ms with
  | nil => exact absurd rfl h
  | cons m ms => rw [put]; split_ifs <;> rfl

/-- What writing more members onto members that are there keeps. -/
theorem foldl_put (P : Members → Prop) {written ms : Members}
    (hstep : ∀ m ∈ written, ∀ ms, P ms → P (put m.1 m.2 ms)) (h : P ms) :
    P (written.foldl (fun members (key, value) => put key value members) ms) := by
  induction written generalizing ms with
  | nil => exact h
  | cons m written ih =>
    exact ih (fun n hn => hstep n (List.mem_cons_of_mem _ hn)) (hstep m (by simp) ms h)

theorem nodup_keys_ofWritten (written : Members) : (keys (ofWritten written)).Nodup :=
  foldl_put (fun ms => (keys ms).Nodup) (fun _ _ _ h => nodup_keys_put h) List.nodup_nil

theorem mem_of_mem_ofWritten {written : Members} {m : String × Json} (h : m ∈ ofWritten written) :
    m ∈ written :=
  foldl_put (fun ms => ∀ m ∈ ms, m ∈ written)
    (fun _ hn _ hms _ hm => (mem_put hm).elim (hms _) fun he => he ▸ hn) (by simp) m h

theorem head_ofWritten (written : Members) :
    (ofWritten written).head?.map Prod.fst = written.head?.map Prod.fst := by
  cases written with
  | nil => rfl
  | cons m written =>
    have hstep : ∀ n ∈ written, ∀ ms : Members, ms ≠ [] ∧ ms.head?.map Prod.fst = some m.1 →
        put n.1 n.2 ms ≠ [] ∧ (put n.1 n.2 ms).head?.map Prod.fst = some m.1 := by
      intro n _ ms h
      refine ⟨fun he => ?_, (head_put n.1 n.2 h.1).trans h.2⟩
      have := head_put n.1 n.2 h.1
      simp [he, h.2] at this
    have hfirst : [m] ≠ [] ∧ [m].head?.map Prod.fst = some m.1 := ⟨List.cons_ne_nil m [], rfl⟩
    exact (foldl_put _ hstep hfirst).2

theorem foldl_put_new {written ms : Members} (h : (keys (ms ++ written)).Nodup) :
    written.foldl (fun members (key, value) => put key value members) ms = ms ++ written := by
  induction written generalizing ms with
  | nil => simp
  | cons m written ih =>
    have hm : m.1 ∉ keys ms := by
      rw [keys, List.map_append, List.nodup_append] at h
      exact fun hk => h.2.2 _ hk _ (by simp) rfl
    change List.foldl _ (put m.1 m.2 ms) written = _
    rw [put_new hm, ih (by simpa using h), List.append_assoc, List.singleton_append]

theorem ofWritten_of_nodup {written : Members} (h : (keys written).Nodup) :
    ofWritten written = written :=
  foldl_put_new h

/-- Members as decoding gives them: distinct keys, and values as `P` says. -/
def Readable (P : Json → Prop) (ms : Members) : Prop := (keys ms).Nodup ∧ ∀ m ∈ ms, P m.2

theorem readable_ofWritten {P : Json → Prop} {written : Members} (h : ∀ m ∈ written, P m.2) :
    Readable P (ofWritten written) :=
  ⟨nodup_keys_ofWritten written, fun m hm => h m (mem_of_mem_ofWritten hm)⟩

end Members

def IsScalar : Json → Prop
  | .array _ | .object _ => False
  | _ => True

/-- The form of a node whose elements and member values have the form `P`. -/
def NodeReadable (P : Json → Prop) : Json → Prop
  | .array items => ∀ x ∈ items, P x
  | .object members => Members.Readable P members ∧ ¬ Grammar.StartsNumber members
  | _ => True

/-- The form of decoded documents with at most `depth` containers inside one another. -/
def Readable : Nat → Json → Prop
  | 0 => IsScalar
  | depth + 1 => NodeReadable (Readable depth)

theorem NodeReadable.mono {P Q : Json → Prop} (h : ∀ x, P x → Q x) {x : Json}
    (hx : NodeReadable P x) : NodeReadable Q x := by
  cases x with
  | array items => exact fun x hm => h x (hx x hm)
  | object members => exact ⟨⟨hx.1.1, fun m hm => h _ (hx.1.2 m hm)⟩, hx.2⟩
  | _ => trivial

theorem Readable.succ {depth : Nat} {x : Json} (h : Readable depth x) :
    Readable (depth + 1) x := by
  induction depth generalizing x with
  | zero => cases x <;> trivial
  | succ depth ih => exact h.mono fun _ => ih

theorem Readable.mono {depth depth' : Nat} (hd : depth ≤ depth') {x : Json}
    (h : Readable depth x) : Readable depth' x := by
  induction hd with
  | refl => exact h
  | step _ ih => exact ih.succ

namespace Scan
open RateCard.Text

/-- Whatever the reader gives has the form `P`. -/
def Ensures {α : Type} (item : Reader α) (P : α → Prop) : Prop :=
  ∀ ⦃s x rest⦄, item s = .ok (x, rest) → P x

section Containers
variable {α : Type} {item : Reader α} {P : α → Prop}

theorem ensures_arrayTail (h : Ensures item P) (steps : Nat) :
    Ensures (arrayTail item steps) fun xs => ∀ x ∈ xs, P x := by
  induction steps with
  | zero => intro s xs rest hs; simp [arrayTail, stopAt] at hs
  | succ steps ih =>
    intro s xs rest hs
    simp only [arrayTail, stopPast] at hs
    split at hs
    · simp at hs
    · split_ifs at hs
      · simp only [Except.ok.injEq, Prod.mk.injEq] at hs
        simp [← hs.1]
      · split at hs
        · simp at hs
        · split_ifs at hs
          obtain ⟨⟨x, s'⟩, hx, hs⟩ := bind_eq_ok.1 hs
          obtain ⟨⟨xs', s''⟩, hxs, hs⟩ := bind_eq_ok.1 hs
          simp only [Except.ok.injEq, Prod.mk.injEq] at hs
          rw [← hs.1]
          exact List.forall_mem_cons.2 ⟨h hx, ih hxs⟩

theorem ensures_array (h : Ensures item P) : Ensures (array item) fun xs => ∀ x ∈ xs, P x := by
  intro s xs rest hs
  simp only [array, stopPast] at hs
  split at hs
  · simp at hs
  · split_ifs at hs
    · simp only [Except.ok.injEq, Prod.mk.injEq] at hs
      simp [← hs.1]
    · obtain ⟨⟨x, s'⟩, hx, hs⟩ := bind_eq_ok.1 hs
      obtain ⟨⟨xs', s''⟩, hxs, hs⟩ := bind_eq_ok.1 hs
      simp only [Except.ok.injEq, Prod.mk.injEq] at hs
      rw [← hs.1]
      exact List.forall_mem_cons.2 ⟨h hx, ensures_arrayTail h _ hxs⟩

theorem ensures_member (h : Ensures item P) : Ensures (member item) fun m => P m.2 := by
  intro s m rest hs
  obtain ⟨⟨key, s₁⟩, -, hs⟩ := bind_eq_ok.1 hs
  obtain ⟨s₂, -, hs⟩ := bind_eq_ok.1 hs
  obtain ⟨⟨x, s₃⟩, hx, hs⟩ := bind_eq_ok.1 hs
  simp only [Except.ok.injEq, Prod.mk.injEq] at hs
  rw [← hs.1]
  exact h hx

theorem ensures_objectTail (h : Ensures item P) (steps : Nat) :
    Ensures (objectTail item steps) fun ms => ∀ m ∈ ms, P m.2 := by
  induction steps with
  | zero => intro s ms rest hs; simp [objectTail, stopAt] at hs
  | succ steps ih =>
    intro s ms rest hs
    simp only [objectTail, stopPast] at hs
    split at hs
    · simp at hs
    · split_ifs at hs
      · simp only [Except.ok.injEq, Prod.mk.injEq] at hs
        simp [← hs.1]
      · split at hs
        · simp at hs
        · split_ifs at hs
          obtain ⟨⟨m, s'⟩, hm, hs⟩ := bind_eq_ok.1 hs
          obtain ⟨⟨ms', s''⟩, hms, hs⟩ := bind_eq_ok.1 hs
          simp only [Except.ok.injEq, Prod.mk.injEq] at hs
          rw [← hs.1]
          exact List.forall_mem_cons.2 ⟨ensures_member h hm, ih hms⟩

theorem ensures_membersFrom (h : Ensures item P) (key : String) :
    Ensures (membersFrom item key) fun ms =>
      (∀ m ∈ ms, P m.2) ∧ ms.head?.map Prod.fst = some key := by
  intro s ms rest hs
  obtain ⟨s₁, -, hs⟩ := bind_eq_ok.1 hs
  obtain ⟨⟨x, s₂⟩, hx, hs⟩ := bind_eq_ok.1 hs
  obtain ⟨⟨ms', s₃⟩, hms, hs⟩ := bind_eq_ok.1 hs
  simp only [Except.ok.injEq, Prod.mk.injEq] at hs
  rw [← hs.1]
  exact ⟨List.forall_mem_cons.2 ⟨h hx, ensures_objectTail h _ hms⟩, rfl⟩

end Containers

theorem ensures_object {item : Reader Json} {P : Json → Prop} (h : Ensures item P) :
    Ensures (object item) (NodeReadable P) := by
  intro s x rest hs
  obtain ⟨⟨key, s₁⟩, -, hs⟩ := bind_eq_ok.1 hs
  cases key with
  | none =>
    simp only [Except.ok.injEq, Prod.mk.injEq] at hs
    rw [← hs.1]
    exact ⟨⟨List.nodup_nil, by simp⟩, by simp [Grammar.StartsNumber]⟩
  | some key =>
    simp only at hs
    split_ifs at hs with hkey
    · obtain ⟨⟨n, s₂⟩, -, hs⟩ := bind_eq_ok.1 hs
      simp only [Except.ok.injEq, Prod.mk.injEq] at hs
      rw [← hs.1]
      trivial
    · obtain ⟨⟨written, s₂⟩, hw, hs⟩ := bind_eq_ok.1 hs
      simp only [Except.ok.injEq, Prod.mk.injEq] at hs
      obtain ⟨hvalues, hhead⟩ := ensures_membersFrom h key hw
      rw [← hs.1]
      refine ⟨Members.readable_ofWritten hvalues, ?_⟩
      rw [Grammar.StartsNumber, Members.head_ofWritten, hhead]
      simpa using hkey

theorem ensures_valueWith {inArray inObject : Reader Json} {P : Json → Prop}
    (hscalar : ∀ x, IsScalar x → P x) (ha : Ensures inArray P) (ho : Ensures inObject P) :
    Ensures (valueWith inArray inObject) P := by
  intro s x rest hs
  simp only [valueWith, stopPast] at hs
  split at hs
  · simp at hs
  · split_ifs at hs
    case pos | pos | pos | pos | pos =>
      obtain ⟨r, -, hs⟩ := bind_eq_ok.1 hs
      simp only [Except.ok.injEq, Prod.mk.injEq] at hs
      rw [← hs.1]
      exact hscalar _ trivial
    · exact ha hs
    · exact ho hs

theorem ensures_value (depth : Nat) : Ensures (value depth) (Readable depth) := by
  induction depth with
  | zero =>
    have hstop : Ensures (stopAt .tooDeep) (Readable 0) := by
      intro s x rest hs
      simp [stopAt] at hs
    exact ensures_valueWith (fun _ h => h) hstop hstop
  | succ depth ih =>
    refine ensures_valueWith (fun x h => ?_) ?_ (ensures_object ih)
    · cases x <;> trivial
    · intro s x rest hs
      obtain ⟨⟨items, s₁⟩, hitems, hs⟩ := bind_eq_ok.1 hs
      simp only [Except.ok.injEq, Prod.mk.injEq] at hs
      rw [← hs.1]
      exact ensures_array ih hitems

theorem ensures_whole {α : Type} {reader : Reader α} {P : α → Prop} (h : Ensures reader P)
    {text : Bytes} {x : α} (hx : whole reader text = .ok x) : P x := by
  simp only [whole] at hx
  cases hr : reader text with
  | error stop => simp [hr] at hx
  | ok result =>
    obtain ⟨y, rest⟩ := result
    rw [hr, ok_bind] at hx
    simp only at hx
    split at hx
    · simp only [mapError_ok, Except.ok.injEq] at hx
      exact hx ▸ h hr
    · simp [stopPast] at hx

end Scan

theorem readable_of_decode {text : Text.Bytes} {x : Json} (h : decode text = .ok x) :
    Readable Scan.maxDepth x :=
  Scan.ensures_whole (Scan.ensures_value Scan.maxDepth) h

end RateCard.Json
