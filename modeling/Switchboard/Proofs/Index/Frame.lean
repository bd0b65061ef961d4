import Switchboard.Proofs.Index.Entries

/-
  What a change of an index leaves alone.

  A change is judged by the subscriptions that it does not mean: they are all
  still there, and every topic finds them in the same order.

  * `AgreeOn`: two indexes agree on the subscriptions that satisfy a test;
  * `Without`: an index has lost the subscriptions that satisfy a test, and
    nothing else;
  * `Mirrors.filter_matching`: the matches that satisfy a test are those that the
    plain list has when nothing else is in it.
-/

namespace Switchboard.Index

variable {H : Type}

/-- The same subscriptions satisfy a test in both indexes, and of the matches of
    every topic the same do, in the same order. -/
structure AgreeOn (test : Subscription H → Bool) (x x' : Index H) : Prop where
  entries : (x'.entries.filter test).Perm (x.entries.filter test)
  matching : ∀ topic, (x'.matching topic).filter test = (x.matching topic).filter test

/-- The second index is the first without the subscriptions that satisfy a test:
    the rest is still there, and every topic finds it in the same order. -/
structure Without (gone : Subscription H → Bool) (x x' : Index H) : Prop where
  entries : x'.entries.Perm (x.entries.filter fun sub => !gone sub)
  matching : ∀ topic, x'.matching topic = (x.matching topic).filter fun sub => !gone sub

theorem AgreeOn.refl (test : Subscription H → Bool) (x : Index H) : AgreeOn test x x :=
  ⟨.refl _, fun _ => rfl⟩

namespace Mirrors

variable {x x' : Index H} {live live' : List (Subscription H)}

/-- **Matches of a part**: those that satisfy a test are found as if nothing else
    were live. -/
theorem filter_matching (h : x.Mirrors live) (test : Subscription H → Bool) (topic : String) :
    (x.matching topic).filter test =
      ((live.filter test).filter (·.pattern.accepts topic)).mergeSort
        fun s t => s.pattern.rank ≤ t.pattern.rank := by
  rw [h.matching_eq]
  refine List.eq_of_filter_eq (f := fun s : Subscription H => s.pattern.rank)
    ((List.pairwise_mergeSort_le _).filter _) (List.pairwise_mergeSort_le _) fun k => ?_
  rw [List.filter_comm, List.filter_mergeSort, List.filter_mergeSort, List.filter_comm,
    List.filter_comm (p := test)]

/-- Indexes that mirror lists with the same part agree on it. -/
theorem agreeOn (h : x.Mirrors live) (h' : x'.Mirrors live') {test : Subscription H → Bool}
    (hpart : live'.filter test = live.filter test) : AgreeOn test x x' where
  entries :=
    calc (x'.entries.filter test).Perm (live'.filter test) := h'.entries_perm.filter _
      _ = live.filter test := hpart
      (live.filter test).Perm (x.entries.filter test) := (h.entries_perm.filter _).symm
  matching topic := by rw [h.filter_matching, h'.filter_matching, hpart]

/-- An index that mirrors what fails a test has lost what satisfies it. -/
theorem without (h : x.Mirrors live) {gone : Subscription H → Bool}
    (h' : x'.Mirrors (live.filter fun sub => !gone sub)) : Without gone x x' where
  entries := h'.entries_perm.trans (h.entries_perm.filter _).symm
  matching topic := by rw [h.filter_matching, h'.matching_eq]

end Mirrors

end Switchboard.Index
