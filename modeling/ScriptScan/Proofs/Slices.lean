import ScriptScan.Text.Place

/-! # Parts of a text between byte positions -/

namespace ScriptScan.Text

/-- A walk passes over a start of the text in front of it that has as many bytes. -/
theorem walk_eq_some_iff {passed ahead p a : Text} {n : Nat} :
    walk passed n ahead = some (p, a) ↔
      ∃ u, ahead = u ++ a ∧ p = u.reverse ++ passed ∧ byteLength u = n := by
  constructor
  · intro h
    fun_induction walk passed n ahead with
    | case1 passed ahead =>
      obtain ⟨rfl, rfl⟩ := Prod.mk.inj (Option.some.inj h)
      exact ⟨[], rfl, rfl, rfl⟩
    | case2 => cases h
    | case3 passed bytes c ahead hc ih =>
      obtain ⟨u, rfl, rfl, hu⟩ := ih h
      refine ⟨c :: u, rfl, by simp, ?_⟩
      rw [byteLength_cons]
      omega
    | case4 => cases h
  · rintro ⟨u, rfl, rfl, rfl⟩
    induction u generalizing passed with
    | nil => simp [walk]
    | cons c u ih =>
      have hc := c.utf8Size_pos
      obtain ⟨m, hm⟩ : ∃ m, byteLength (c :: u) = m + 1 :=
        Nat.exists_eq_add_one_of_ne_zero (by rw [byteLength_cons]; omega)
      have hle : c.utf8Size ≤ m + 1 := by rw [← hm, byteLength_cons]; omega
      have hrest : m + 1 - c.utf8Size = byteLength u := by rw [← hm, byteLength_cons]; omega
      rw [hm, List.cons_append, walk, if_pos hle, hrest, ih]
      simp

/-- The part of a text from one byte position up to another; none if the first comes after the
second, or if one of them is no boundary between characters. -/
def slice? (t : Text) (start stop : Nat) : Option Text :=
  if start ≤ stop then do
    let (_, ahead) ← walk [] start t
    let (passed, _) ← walk [] (stop - start) ahead
    some passed.reverse
  else none

theorem slice?_eq_some_iff {t u : Text} {start stop : Nat} :
    slice? t start stop = some u ↔
      ∃ before after, t = before ++ u ++ after ∧ byteLength before = start ∧
        start + byteLength u = stop := by
  constructor
  · intro h
    simp only [slice?, Option.ite_none_right_eq_some, Option.bind_eq_bind, Option.bind_eq_some_iff,
      Prod.exists, Option.some.injEq] at h
    obtain ⟨hle, _, ahead, hstart, passed, after, hstop, rfl⟩ := h
    obtain ⟨before, rfl, -, hb⟩ := walk_eq_some_iff.mp hstart
    obtain ⟨u, rfl, rfl, hu⟩ := walk_eq_some_iff.mp hstop
    refine ⟨before, after, by simp, hb, ?_⟩
    simp only [List.append_nil, List.reverse_reverse]
    omega
  · rintro ⟨before, after, rfl, rfl, rfl⟩
    have hstart : walk [] (byteLength before) (before ++ u ++ after) =
        some (before.reverse, u ++ after) :=
      walk_eq_some_iff.mpr ⟨before, by simp, by simp, rfl⟩
    have hstop : walk [] (byteLength before + byteLength u - byteLength before) (u ++ after) =
        some (u.reverse, after) :=
      walk_eq_some_iff.mpr ⟨u, rfl, by simp, by omega⟩
    rw [slice?, if_pos (Nat.le_add_right ..), hstart]
    simp only [Option.bind_eq_bind, Option.bind_some, hstop, List.reverse_reverse]

/-- A text is cut in only one way at a byte position. -/
theorem append_inj_of_byteLength {u v u' v' : Text} (h : u ++ v = u' ++ v')
    (hb : byteLength u = byteLength u') : u = u' ∧ v = v' := by
  have hu : walk [] (byteLength u) (u ++ v) = some (u.reverse, v) :=
    walk_eq_some_iff.mpr ⟨u, rfl, (List.append_nil _).symm, rfl⟩
  have hu' : walk [] (byteLength u) (u ++ v) = some (u'.reverse, v') :=
    walk_eq_some_iff.mpr ⟨u', h, (List.append_nil _).symm, hb.symm⟩
  obtain ⟨hr, hv⟩ := Prod.mk.inj (Option.some.inj (hu.symm.trans hu'))
  exact ⟨List.reverse_inj.mp hr, hv⟩

/-- Two parts, the second of which starts where the first stops, are one part. -/
theorem slice?_append {t u v : Text} {start mid stop : Nat} (hu : slice? t start mid = some u)
    (hv : slice? t mid stop = some v) : slice? t start stop = some (u ++ v) := by
  obtain ⟨before, after, ht, hbefore, hmid⟩ := slice?_eq_some_iff.mp hu
  obtain ⟨passed, behind, ht', hpassed, hstop⟩ := slice?_eq_some_iff.mp hv
  have hcut : before ++ u ++ after = passed ++ (v ++ behind) := by
    rw [← ht, ht', List.append_assoc]
  obtain ⟨-, rfl⟩ := append_inj_of_byteLength hcut (by rw [byteLength_append]; omega)
  refine slice?_eq_some_iff.mpr ⟨before, behind, ?_, hbefore, ?_⟩
  · rw [ht]
    simp only [List.append_assoc]
  · rw [byteLength_append]
    omega

end ScriptScan.Text
