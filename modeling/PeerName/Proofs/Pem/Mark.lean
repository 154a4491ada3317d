import PeerName.Pem.Block

/-!
# Finding a mark

The search for a mark does not go back: when a mark breaks off, the byte that breaks it is passed
over with what was there of the mark.  So it can miss a mark, but what it finds is one, and it finds
the first one as soon as the byte in front of it is none of the mark's own.

* `eq_append_of_cut?` — what is found is a mark;
* `cutFrom_of_none` — bytes without a mark leave the search somewhere inside it;
* `cutFrom_of_notMem`, `cutFrom_left` — a byte that is not in the mark, and the rest of the mark;
* `cut?_append` — **the mark behind bytes that do not run into it is found**.
-/

namespace PeerName.Pem

variable {mark left passed front back bytes : List UInt8} {b : UInt8}

/-! ### What is found -/

/-- What is found while `begun` is there of the mark: the bytes that were passed before it began,
and those behind the mark. -/
theorem eq_append_of_cutFrom (begun before : List UInt8) (hne : left ≠ [])
    (hmark : mark = begun ++ left) (hpassed : passed = begun.reverse ++ before)
    (h : cutFrom mark left passed bytes = some (front, back)) :
    passed.reverse ++ bytes = front ++ (mark ++ back) := by
  induction bytes generalizing left passed begun before with
  | nil => cases h
  | cons b rest ih =>
    rw [cutFrom] at h
    by_cases hhead : left.head? = some b
    · obtain ⟨more, rfl⟩ := List.head?_eq_some_iff.mp hhead
      rw [if_pos hhead] at h
      by_cases hlast : (b :: more).length = 1
      · obtain rfl : more = [] := List.length_eq_zero_iff.mp (Nat.succ.inj hlast)
        rw [if_pos hlast] at h
        obtain ⟨hfront, rfl⟩ := Prod.mk.inj (Option.some.inj h)
        have hdrop : passed.drop (mark.length - 1) = before := by
          rw [hpassed, hmark, List.length_append, List.length_singleton, Nat.add_sub_cancel,
            ← List.length_reverse, List.drop_left]
        rw [← hfront, hdrop, hpassed, hmark]
        simp
      · rw [if_neg hlast] at h
        have hmore : more ≠ [] := by
          rintro rfl
          exact hlast rfl
        have hstep : (b :: passed).reverse ++ rest = front ++ (mark ++ back) := by
          apply ih (begun ++ [b]) before hmore
          · rw [hmark, List.append_assoc, List.singleton_append]
          · rw [hpassed]
            simp
          · exact h
        rw [← hstep]
        simp
    · -- the mark breaks off, and what there was of it counts as passed
      rw [if_neg hhead] at h
      have hmarkNe : mark ≠ [] := by
        rw [hmark]
        exact List.append_ne_nil_of_right_ne_nil _ hne
      have hstep : (b :: passed).reverse ++ rest = front ++ (mark ++ back) :=
        ih [] (b :: passed) hmarkNe rfl rfl h
      rw [← hstep]
      simp

/-- **What is found is a mark.** -/
theorem eq_append_of_cut? (hne : mark ≠ []) (h : cut? mark bytes = some (front, back)) :
    bytes = front ++ (mark ++ back) :=
  eq_append_of_cutFrom [] [] hne rfl rfl h

theorem cut?_eq_none_of_not_infix (hne : mark ≠ []) (h : ¬mark <:+: bytes) :
    cut? mark bytes = none := by
  cases hcut : cut? mark bytes with
  | none => rfl
  | some parts =>
    have hbytes := eq_append_of_cut? hne hcut
    exact absurd ⟨parts.1, parts.2, by rw [hbytes, List.append_assoc]⟩ h

/-! ### Where the mark is found -/

/-- Bytes without a mark leave the search somewhere inside it. -/
theorem cutFrom_of_none (hne : mark ≠ []) (hleft : left ≠ []) (hsuffix : left <:+ mark)
    (h : cutFrom mark left passed bytes = none) :
    ∃ left', left' ≠ [] ∧ left' <:+ mark ∧ ∀ rest,
      cutFrom mark left passed (bytes ++ rest) =
        cutFrom mark left' (bytes.reverse ++ passed) rest := by
  induction bytes generalizing left passed with
  | nil => exact ⟨left, hleft, hsuffix, fun _ => rfl⟩
  | cons b bytes ih =>
    rw [cutFrom] at h
    by_cases hhead : left.head? = some b
    · obtain ⟨more, rfl⟩ := List.head?_eq_some_iff.mp hhead
      rw [if_pos hhead] at h
      by_cases hlast : (b :: more).length = 1
      · rw [if_pos hlast] at h
        cases h
      · rw [if_neg hlast] at h
        have hmore : more ≠ [] := by
          rintro rfl
          exact hlast rfl
        obtain ⟨left', hne', hsuffix', hrest⟩ :=
          ih hmore ((List.suffix_cons b more).trans hsuffix) h
        refine ⟨left', hne', hsuffix', fun rest => ?_⟩
        rw [List.cons_append, cutFrom, if_pos hhead, if_neg hlast, List.reverse_cons,
          List.append_assoc, List.singleton_append]
        exact hrest rest
    · rw [if_neg hhead] at h
      obtain ⟨left', hne', hsuffix', hrest⟩ := ih hne (List.suffix_refl mark) h
      refine ⟨left', hne', hsuffix', fun rest => ?_⟩
      rw [List.cons_append, cutFrom, if_neg hhead, List.reverse_cons, List.append_assoc,
        List.singleton_append]
      exact hrest rest

/-- A byte that is not in the mark sets the search back to its beginning. -/
theorem cutFrom_of_notMem (hsuffix : left <:+ mark) (h : b ∉ mark) (rest : List UInt8) :
    cutFrom mark left passed (b :: rest) = cutFrom mark mark (b :: passed) rest := by
  have hhead : left.head? ≠ some b := fun hb =>
    h (hsuffix.subset (List.mem_of_mem_head? hb))
  rw [cutFrom, if_neg hhead]

/-- The rest of the mark completes it. -/
theorem cutFrom_left (hleft : left ≠ []) (rest : List UInt8) :
    cutFrom mark left passed (left ++ rest) =
      some (((left.dropLast.reverse ++ passed).drop (mark.length - 1)).reverse, rest) := by
  induction left generalizing passed with
  | nil => exact absurd rfl hleft
  | cons b more ih =>
    rw [List.cons_append, cutFrom, if_pos (List.head?_cons)]
    cases more with
    | nil => rfl
    | cons c more =>
      rw [if_neg (by simp), List.drop_one, List.tail_cons, ih (List.cons_ne_nil c more),
        List.dropLast_cons_cons, List.reverse_cons, List.append_assoc, List.singleton_append]

/-- **The mark is found** behind bytes that do not hold it, if the last of these is not in it. -/
theorem cut?_append (hne : mark ≠ []) (hfront : ¬mark <:+: front)
    (hlast : ∀ b, front.getLast? = some b → b ∉ mark) (rest : List UInt8) :
    cut? mark (front ++ (mark ++ rest)) = some (front, rest) := by
  have hfound (passed : List UInt8) :
      cutFrom mark mark passed (mark ++ rest) = some (passed.reverse, rest) := by
    have hlength : mark.length - 1 = mark.dropLast.reverse.length := by simp
    rw [cutFrom_left hne, hlength, List.drop_left]
  rcases List.eq_nil_or_concat front with rfl | ⟨init, b, rfl⟩
  · exact hfound []
  · rw [List.concat_eq_append] at *
    have hinit : cut? mark init = none :=
      cut?_eq_none_of_not_infix hne fun h => hfront (h.trans (List.infix_append' [] init [b]))
    have hb : b ∉ mark := hlast b (by simp)
    obtain ⟨left, -, hsuffix, hstep⟩ :=
      cutFrom_of_none hne hne (List.suffix_refl mark) hinit
    rw [cut?, List.append_assoc, hstep, List.singleton_append, cutFrom_of_notMem hsuffix hb,
      hfound]
    simp

end PeerName.Pem
