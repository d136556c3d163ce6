import ChannelRules.Proofs.Ty.Clash
import ChannelRules.Proofs.Ty.Steady

/-!
# Joining a list of types

A list of types without variables is joined from the left. If any two of them agree then the join
succeeds in every order, and whenever it succeeds it gives the least type above all of them.
-/

namespace ChannelRules

namespace Ty

section Compatible

variable {a b c : Ty}

lemma compatible_of_ok {fuel : Nat} {s s' : Bindings} (hfuel : a.size < fuel)
    (ha : a.hasVars = false) (hb : b.hasVars = false) (h : unifyWith fuel a b s = .ok c s') :
    Compatible a b := by
  intro more hmore t
  have hsteady := unifyWith_steady hfuel (show a.size < more by omega) ha hb
  exact (hsteady.ok_iff s t).1 ⟨c, s', h⟩

lemma compatible_iff (ha : a.hasVars = false) (hb : b.hasVars = false) :
    Compatible a b ↔ ∃ c, (agree a b).result = .ok c := by
  constructor
  · intro h
    obtain ⟨c, s', hc⟩ := h.unify .empty
    exact ⟨c, agree_eq_ok.2 ⟨s', hc⟩⟩
  · rintro ⟨c, hc⟩
    obtain ⟨s', hc⟩ := agree_eq_ok.1 hc
    exact compatible_of_ok (size_lt_unifyFuel a b .empty) ha hb hc

lemma compatible_self (ha : a.hasVars = false) : Compatible a a :=
  compatible_of_le ha ha (le_refl a)

lemma Compatible.symm (ha : a.hasVars = false) (hb : b.hasVars = false) (h : Compatible a b) :
    Compatible b a := by
  intro fuel hfuel s
  obtain ⟨c, s', hc⟩ := h fuel (by omega) s
  refine ⟨c, s', ?_⟩
  rw [unifyWith_symmetric fuel ha hb s, hc]
  rfl

lemma compatible_enum_iff {xs ys : List String} :
    Compatible (enum xs) (enum ys) ↔ xs ⊆ ys ∨ ys ⊆ xs := by
  constructor
  · intro h
    by_contra hapart
    rw [not_or] at hapart
    have hne : xs ≠ ys := by
      rintro rfl
      exact hapart.1 (List.Subset.refl xs)
    obtain ⟨c, s', hc⟩ := h _ (Nat.lt_succ_self _) .empty
    rw [unifyWith_shapes _ (ne_var_of_hasVars rfl) (ne_var_of_hasVars rfl),
      if_neg fun heq => hne (enum.inj heq)] at hc
    simp only [unifyShapes, unifyEnums_eq_none_iff.2 hapart] at hc
    cases hc
  · intro h
    cases hentries : unifyEnums xs ys with
    | some zs => exact compatible_enum hentries
    | none =>
      obtain ⟨hbelow, habove⟩ := unifyEnums_eq_none_iff.1 hentries
      exact absurd h (not_or.2 ⟨hbelow, habove⟩)

lemma unifyLists_eq_ok {step : Ty → Ty → Unify Ty} {xs ys zs : List Ty} {s s' : Bindings}
    (hlength : xs.length = ys.length) (h : unifyLists step xs ys s = .ok zs s') :
    List.Forall₂ (fun x y => ∃ z t t', step x y t = .ok z t') xs ys := by
  induction xs generalizing ys zs s s' with
  | nil =>
    rw [List.eq_nil_of_length_eq_zero hlength.symm]
    exact .nil
  | cons x xs ih =>
    cases ys with
    | nil => cases hlength
    | cons y ys =>
      simp only [unifyLists, state_bind_eq_ok] at h
      obtain ⟨z, t, hz, rest, t', hrest, -⟩ := h
      exact .cons ⟨z, s, t, hz⟩ (ih (Nat.succ.inj hlength) hrest)

lemma unifyLists_length {step : Ty → Ty → Unify Ty} {xs ys zs : List Ty} {s s' : Bindings}
    (hlength : xs.length = ys.length) (h : unifyLists step xs ys s = .ok zs s') :
    zs.length = xs.length := by
  induction xs generalizing ys zs s s' with
  | nil =>
    cases h
    rfl
  | cons x xs ih =>
    cases ys with
    | nil => cases hlength
    | cons y ys =>
      simp only [unifyLists, state_bind_eq_ok, state_pure_eq_ok] at h
      obtain ⟨z, t, -, rest, t', hrest, rfl, -⟩ := h
      exact congrArg Nat.succ (ih (Nat.succ.inj hlength) hrest)

lemma compatible_components (haligned : Aligned a b) (ha : a.hasVars = false)
    (hb : b.hasVars = false) (h : Compatible a b) :
    List.Forall₂ Compatible a.components b.components := by
  by_cases hab : a = b
  · subst hab
    exact List.forall₂_same.2 fun x hx => compatible_self (hasVars_of_mem_components ha hx)
  obtain ⟨c, s', hc⟩ := h (a.size + b.size + 1) (by omega) .empty
  rw [unifyWith_shapes _ haligned.ne_var.1 haligned.ne_var.2, if_neg hab,
    unifyShapes_aligned _ haligned] at hc
  simp only [state_bind_eq_ok] at hc
  obtain ⟨zs, t, hzs, -⟩ := hc
  have hsteps := List.forall₂_iff_get.1 (unifyLists_eq_ok haligned.length_components hzs)
  refine List.forall₂_iff_get.2 ⟨hsteps.1, fun i hx hy => ?_⟩
  obtain ⟨z, t, t', hz⟩ := hsteps.2 i hx hy
  have hsize := size_lt_of_mem_components (List.get_mem a.components ⟨i, hx⟩)
  exact compatible_of_ok (by omega) (hasVars_of_mem_components ha (List.get_mem _ _))
    (hasVars_of_mem_components hb (List.get_mem _ _)) hz

/-- Types that agree are comparable, have parts one by one, or are two enumerations. -/
lemma compatible_cases (ha : a.hasVars = false) (hb : b.hasVars = false) (h : Compatible a b) :
    a ≤ b ∨ b ≤ a ∨ Aligned a b ∨ ∃ xs ys, a = enum xs ∧ b = enum ys := by
  obtain ⟨c, s', hc⟩ := h.unify .empty
  obtain ⟨hac, hbc, -⟩ := isLUB_pair_iff.1 (unifyWith_joins _ ha hb hc)
  rcases below_cases hac hbc with hab | hba | haligned | ⟨xs, ys, zs, hxs, hys, -⟩
  · exact .inl hab
  · exact .inr (.inl hba)
  · exact .inr (.inr (.inl haligned))
  · exact .inr (.inr (.inr ⟨xs, ys, hxs, hys⟩))

lemma unifyEnums_mem {xs ys zs : List String} (h : unifyEnums xs ys = some zs) :
    zs = xs ∨ zs = ys ∨ zs = NameSet.ofNames xs := by
  unfold unifyEnums at h
  dsimp only at h
  split at h
  · cases h
    exact .inr (.inr rfl)
  split at h
  · cases h
    exact .inr (.inl rfl)
  split at h
  · cases h
    exact .inl rfl
  · cases h

/-- Putting the entries in order does not change what an enumeration agrees with. -/
lemma compatible_ofNames {xs : List String} (hc : c.hasVars = false)
    (h : Compatible (enum xs) c) : Compatible (enum (NameSet.ofNames xs)) c := by
  have hsub : NameSet.ofNames xs ⊆ xs := fun x hx => NameSet.mem_ofNames.1 hx
  have hsup : xs ⊆ NameSet.ofNames xs := fun x hx => NameSet.mem_ofNames.2 hx
  have hordered : enum xs ≤ enum (NameSet.ofNames xs) := Le.enum hsup fun _ => rfl
  have henum : ∀ ws, c = enum ws → Compatible (enum (NameSet.ofNames xs)) c := by
    rintro ws rfl
    rw [compatible_enum_iff] at h ⊢
    exact h.imp (List.Subset.trans hsub) fun hws => List.Subset.trans hws hsup
  rcases compatible_cases rfl hc h with hle | hle | haligned | ⟨_, ws, -, rfl⟩
  · cases hle with
    | refl => exact henum xs rfl
    | enum _ _ => exact henum _ rfl
  · exact compatible_of_ge rfl hc (le_trans hle hordered)
  · cases haligned
  · exact henum ws rfl

lemma compatible_unifyLists (step : Ty → Ty → Unify Ty) {xs ys cs zs : List Ty} {s s' : Bindings}
    (hstep : ∀ {x y z c : Ty} {t t' : Bindings}, x.hasVars = false → y.hasVars = false →
      c.hasVars = false → step x y t = .ok z t' → Compatible x c → Compatible y c → Compatible z c)
    (hxs : ∀ x ∈ xs, x.hasVars = false) (hys : ∀ y ∈ ys, y.hasVars = false)
    (hcs : ∀ c ∈ cs, c.hasVars = false) (h : unifyLists step xs ys s = .ok zs s')
    (hleft : List.Forall₂ Compatible xs cs) (hright : List.Forall₂ Compatible ys cs) :
    List.Forall₂ Compatible zs cs := by
  induction hleft generalizing ys zs s s' with
  | nil =>
    cases hright
    cases h
    exact .nil
  | @cons x c xs cs hx _ ih =>
    cases hright with
    | @cons y _ ys _ hy hright =>
      rw [List.forall_mem_cons] at hxs hys hcs
      simp only [unifyLists, state_bind_eq_ok, state_pure_eq_ok] at h
      obtain ⟨z, t, hz, rest, t', hrest, rfl, -⟩ := h
      exact .cons (hstep hxs.1 hys.1 hcs.1 hz hx hy) (ih hxs.2 hys.2 hcs.2 hrest hright)

/-- What two types are brought together to agrees with every type that both agree with. -/
theorem compatible_unifyWith {fuel : Nat} {d : Ty} {s s' : Bindings} (ha : a.hasVars = false)
    (hb : b.hasVars = false) (hc : c.hasVars = false) (h : unifyWith fuel a b s = .ok d s')
    (hac : Compatible a c) (hbc : Compatible b c) : Compatible d c := by
  induction fuel generalizing a b c d s s' with
  | zero => cases h
  | succ fuel ih =>
    have hjoin := unifyWith_joins _ ha hb h
    have hd := (unifyWith_widens _ ha hb h).1
    rw [unifyWith_shapes fuel (ne_var_of_hasVars ha) (ne_var_of_hasVars hb)] at h
    by_cases hab : a = b
    · rw [if_pos hab] at h
      cases h
      exact hac
    rw [if_neg hab] at h
    cases unifyShapes_outcome h with
    | second _ _ => exact hbc
    | first _ _ => exact hac
    | entries hentries =>
      rcases unifyEnums_mem hentries with rfl | rfl | rfl
      · exact hac
      · exact hbc
      · exact compatible_ofNames hc hac
    | @parts _ _ zs _ haligned hzs =>
      have hparts : Aligned a c → Compatible (a.withComponents zs) c := by
        intro halignedC
        have hxs := compatible_components halignedC ha hc hac
        have hys := compatible_components (haligned.symm.trans halignedC) hb hc hbc
        have hitems := compatible_unifyLists (unifyWith fuel)
          (fun hx hy hz hjoined hxz hyz => ih hx hy hz hjoined hxz hyz)
          (fun _ => hasVars_of_mem_components ha) (fun _ => hasVars_of_mem_components hb)
          (fun _ => hasVars_of_mem_components hc) hzs hxs hys
        have hlength : zs.length = a.components.length :=
          hitems.length_eq.trans hxs.length_eq.symm
        refine compatible_of_components ((haligned.withComponents hlength).symm.trans halignedC) ?_
        rwa [haligned.components_withComponents hlength]
      rcases compatible_cases ha hc hac with hle | hle | halignedC | ⟨_, _, rfl, -⟩
      · exact hparts (aligned_of_le haligned hle)
      · exact compatible_of_ge hd hc (le_trans hle (isLUB_pair_iff.1 hjoin).1)
      · exact hparts halignedC
      · cases haligned

end Compatible

lemma isLUB_perm {types types' : List Ty} (h : types.Perm types') {c : Ty} :
    IsLUB {ty | ty ∈ types} c ↔ IsLUB {ty | ty ∈ types'} c := by
  have hset : {ty | ty ∈ types} = {ty | ty ∈ types'} := by
    ext ty
    exact h.mem_iff
  rw [hset]

/-- One type after the other is brought together with what those before it have given. -/
inductive JoinsTo : Ty → List Ty → Ty → Prop
  | nil (first : Ty) : JoinsTo first [] first
  | cons {first ty joined last : Ty} {rest : List Ty} (h : (agree first ty).result = .ok joined)
      (hrest : JoinsTo joined rest last) : JoinsTo first (ty :: rest) last

section JoinsTo

variable {first last : Ty} {types : List Ty}

lemma hasVars_of_agree {a b c : Ty} (ha : a.hasVars = false) (hb : b.hasVars = false)
    (h : (agree a b).result = .ok c) : c.hasVars = false := by
  obtain ⟨s, hunify⟩ := agree_eq_ok.1 h
  exact (unifyWith_widens _ ha hb hunify).1

lemma JoinsTo.isLUB (h : JoinsTo first types last) (hfirst : first.hasVars = false)
    (htypes : ∀ ty ∈ types, ty.hasVars = false) : IsLUB {ty | ty ∈ first :: types} last := by
  induction h with
  | nil first => simp
  | @cons first ty joined last rest hjoined _ ih =>
    rw [List.forall_mem_cons] at htypes
    obtain ⟨hupper, hleast⟩ := ih (hasVars_of_agree hfirst htypes.1 hjoined) htypes.2
    obtain ⟨hfirstLe, htyLe, hjoin⟩ := isLUB_pair_iff.1 (agree_isLUB hfirst htypes.1 hjoined)
    have hjoinedLe : joined ≤ last := hupper List.mem_cons_self
    constructor
    · intro x hx
      rcases List.mem_cons.1 hx with rfl | hx
      · exact le_trans hfirstLe hjoinedLe
      rcases List.mem_cons.1 hx with rfl | hx
      · exact le_trans htyLe hjoinedLe
      · exact hupper (List.mem_cons_of_mem _ hx)
    · intro d hd
      apply hleast
      intro x hx
      rcases List.mem_cons.1 hx with rfl | hx
      · exact hjoin d (hd List.mem_cons_self) (hd (List.mem_cons_of_mem _ List.mem_cons_self))
      · exact hd (List.mem_cons_of_mem _ (List.mem_cons_of_mem _ hx))

/-- Types any two of which agree can be joined. -/
theorem exists_joinsTo (hfirst : first.hasVars = false)
    (htypes : ∀ ty ∈ types, ty.hasVars = false)
    (h : ∀ a ∈ first :: types, ∀ b ∈ first :: types, Compatible a b) :
    ∃ last, JoinsTo first types last := by
  induction types generalizing first with
  | nil => exact ⟨first, .nil first⟩
  | cons ty rest ih =>
    rw [List.forall_mem_cons] at htypes
    have hty : ty ∈ first :: ty :: rest := List.mem_cons_of_mem _ List.mem_cons_self
    have hrest : ∀ {b}, b ∈ rest → b ∈ first :: ty :: rest := fun hb =>
      List.mem_cons_of_mem _ (List.mem_cons_of_mem _ hb)
    obtain ⟨joined, hjoined⟩ :=
      (compatible_iff hfirst htypes.1).1 (h first List.mem_cons_self ty hty)
    obtain ⟨s, hunify⟩ := agree_eq_ok.1 hjoined
    have hvars := hasVars_of_agree hfirst htypes.1 hjoined
    have hagrees : ∀ b ∈ rest, Compatible joined b := fun b hb =>
      compatible_unifyWith hfirst htypes.1 (htypes.2 b hb) hunify
        (h first List.mem_cons_self b (hrest hb)) (h ty hty b (hrest hb))
    obtain ⟨last, hlast⟩ := ih hvars htypes.2 (by
      intro a ha b hb
      rcases List.mem_cons.1 ha with rfl | ha'
      · rcases List.mem_cons.1 hb with rfl | hb'
        · exact compatible_self hvars
        · exact hagrees b hb'
      · rcases List.mem_cons.1 hb with rfl | hb'
        · exact (hagrees a ha').symm hvars (htypes.2 a ha')
        · exact h a (hrest ha') b (hrest hb'))
    exact ⟨last, .cons hjoined hlast⟩

lemma exists_join (htypes : ∀ ty ∈ types, ty.hasVars = false)
    (h : ∀ a ∈ types, ∀ b ∈ types, Compatible a b) : ∃ last, JoinsTo any types last := by
  have hany : ∀ b ∈ any :: types, Compatible any b ∧ Compatible b any := by
    intro b hb
    have hvars : b.hasVars = false := by
      rcases List.mem_cons.1 hb with rfl | hb
      · rfl
      · exact htypes b hb
    exact ⟨compatible_of_le rfl hvars (Le.any b), compatible_of_ge hvars rfl (Le.any b)⟩
  apply exists_joinsTo rfl htypes
  intro a ha b hb
  rcases List.mem_cons.1 ha with rfl | ha'
  · exact (hany b hb).1
  rcases List.mem_cons.1 hb with rfl | hb'
  · exact (hany a ha).2
  · exact h a ha' b hb'

/-- Whether two types are brought together, and to what, does not depend on the bindings. -/
lemma unify_eq_ok_iff {a b c : Ty} (ha : a.hasVars = false) (hb : b.hasVars = false)
    (s : Bindings) : (∃ s', unify a b s = .ok c s') ↔ (agree a b).result = .ok c := by
  rw [agree_eq_ok]
  have hsteady := unifyWith_steady (size_lt_unifyFuel a b s) (size_lt_unifyFuel a b .empty) ha hb
  unfold unify
  rcases hsteady s .empty with ⟨d, t, t', hs, hempty⟩ | ⟨e, e', t, t', hs, hempty⟩
  · rw [hs, hempty]
    simp
  · rw [hs, hempty]
    simp

lemma unifyAll_eq_ok_iff (hfirst : first.hasVars = false)
    (htypes : ∀ ty ∈ types, ty.hasVars = false) (s : Bindings) :
    (∃ s', unifyAll first types s = .ok last s') ↔ JoinsTo first types last := by
  induction types generalizing first s with
  | nil =>
    simp only [unifyAll, state_pure_eq_ok]
    constructor
    · rintro ⟨s', rfl, -⟩
      exact .nil first
    · intro h
      cases h
      exact ⟨s, rfl, rfl⟩
  | cons ty rest ih =>
    rw [List.forall_mem_cons] at htypes
    simp only [unifyAll, state_bind_eq_ok]
    constructor
    · rintro ⟨s', joined, t, hjoined, hrest⟩
      have hagree := (unify_eq_ok_iff hfirst htypes.1 s).1 ⟨t, hjoined⟩
      have hvars := hasVars_of_agree hfirst htypes.1 hagree
      exact .cons hagree ((ih hvars htypes.2 t).1 ⟨s', hrest⟩)
    · intro h
      cases h with
      | @cons _ _ joined _ _ hagree hrest =>
        have hvars := hasVars_of_agree hfirst htypes.1 hagree
        obtain ⟨t, hjoined⟩ := (unify_eq_ok_iff hfirst htypes.1 s).2 hagree
        obtain ⟨s', hlast⟩ := (ih hvars htypes.2 t).2 hrest
        exact ⟨s', joined, t, hjoined, hlast⟩

lemma join_eq_ok_iff (htypes : ∀ ty ∈ types, ty.hasVars = false) :
    (join types).result = .ok last ↔ JoinsTo any types last := by
  rw [join_eq_ok]
  exact unifyAll_eq_ok_iff rfl htypes .empty

/-- Types below one type can be joined, or enumerations are in the way. -/
lemma unifyAll_clash {c : Ty} {e : TypeError} {s s' : Bindings} (hfirst : first.hasVars = false)
    (htypes : ∀ ty ∈ types, ty.hasVars = false) (hbelow : ∀ ty ∈ first :: types, ty ≤ c)
    (h : unifyAll first types s = .error e s') : Clash e c := by
  induction types generalizing first s with
  | nil => cases h
  | cons ty rest ih =>
    rw [List.forall_mem_cons] at htypes
    simp only [List.forall_mem_cons] at hbelow
    obtain ⟨hfirstLe, htyLe, hrestLe⟩ := hbelow
    rw [unifyAll, state_bind_eq_error] at h
    rcases h with hfail | ⟨joined, t, hjoined, hrest⟩
    · have hfuel : first.size + ty.size < unifyFuel first ty s := by
        have hbase : first.size + ty.size < 2 * (first.size + ty.size + boundSize s.types) + 3 := by
          omega
        exact lt_of_lt_of_le hbase (Nat.le_self_pow (by decide) _)
      exact unifyWith_clash hfuel hfirst htypes.1 hfirstLe htyLe hfail
    · have hvars := (unifyWith_widens _ hfirst htypes.1 hjoined).1
      have hle := (isLUB_pair_iff.1 (unifyWith_joins _ hfirst htypes.1 hjoined)).2.2 c hfirstLe htyLe
      exact ih hvars htypes.2 (List.forall_mem_cons.2 ⟨hle, hrestLe⟩) hrest

lemma join_clash {c : Ty} {e : TypeError} (htypes : ∀ ty ∈ types, ty.hasVars = false)
    (hbelow : ∀ ty ∈ types, ty ≤ c) (h : (join types).result = .error e) : Clash e c := by
  have hfails : ∃ s, unifyAll any types .empty = .error e s := by
    unfold join at h
    cases hall : unifyAll any types .empty with
    | ok ty s =>
      rw [hall] at h
      cases h
    | error e' s =>
      rw [hall] at h
      cases h
      exact ⟨s, rfl⟩
  obtain ⟨s, hall⟩ := hfails
  exact unifyAll_clash rfl htypes (List.forall_mem_cons.2 ⟨Le.any c, hbelow⟩) hall

end JoinsTo

end Ty

end ChannelRules
