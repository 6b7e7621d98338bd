import Mathlib.Data.Finset.Card
import Mathlib.Data.Finset.Range
import RadioGossip.Proofs.Outlines

/-!
# Hops

How far a flood gets is a matter of hops. Some stations are **within** so many hops of its origin, as
links go. But a message need not come to a station on a shortest way. A **hop plan** says to which
stations it comes and after how many hops to each: to the origin after none, to every other station
one hop after it came to some neighbour. A station to which it comes before the limit passes it on,
so then it comes to all of its neighbours, at once or on some other way.

A plan names no station that is not within as many hops as it says. Whether it names all stations
within the limit is another matter: where the message comes on a long way first, the limit may be
used up too soon. With a limit for as many stations as there are this cannot happen.
-/

namespace RadioGossip

namespace Mesh

variable {mesh : Mesh} {origin limit depth hops index : Nat} {plan : Nat → Option Nat}

/-! ## Distance -/

/-- A message gets from the origin to the station over so many links or fewer. -/
def Within (mesh : Mesh) (origin : Nat) : (hops index : Nat) → Prop
  | 0, index => index = origin
  | hops + 1, index => mesh.Within origin hops index ∨
      ∃ before < mesh.stations.length, mesh.Within origin hops before ∧ mesh.Linked before index

instance decidableWithin (mesh : Mesh) (origin : Nat) :
    (hops index : Nat) → Decidable (mesh.Within origin hops index)
  | 0, index => inferInstanceAs (Decidable (index = origin))
  | hops + 1, index =>
    haveI := decidableWithin mesh origin hops
    inferInstanceAs (Decidable (mesh.Within origin hops index ∨
      ∃ before < mesh.stations.length, mesh.Within origin hops before ∧ mesh.Linked before index))

theorem Linked.lt_length {here there : Nat} (h : mesh.Linked here there) :
    here < mesh.stations.length := by
  obtain ⟨station, hstation, -⟩ := h
  exact (List.getElem?_eq_some_iff.mp hstation).1

theorem Within.mono (h : mesh.Within origin hops index) {more : Nat} (hle : hops ≤ more) :
    mesh.Within origin more index := by
  induction hle with
  | refl => exact h
  | step _ ih => exact .inl ih

/-! ## Plans -/

/-- The plan says after how many hops a message comes to the stations, no more than the limit. -/
structure IsHopPlan (mesh : Mesh) (origin limit : Nat) (plan : Nat → Option Nat) : Prop where
  start : ∀ index, plan index = some 0 ↔ index = origin
  step : ∀ index depth, plan index = some (depth + 1) →
    ∃ before, plan before = some depth ∧ mesh.Linked before index
  lt : ∀ index depth, plan index = some depth → index < mesh.stations.length
  le : ∀ index depth, plan index = some depth → depth ≤ limit
  closed : ∀ before depth, plan before = some depth → depth < limit →
    ∀ index < mesh.stations.length, mesh.Linked before index → (plan index).isSome = true

/-- A plan takes no shorter way than there is. -/
theorem IsHopPlan.within (h : mesh.IsHopPlan origin limit plan) (hplan : plan index = some depth) :
    mesh.Within origin depth index := by
  induction depth generalizing index with
  | zero => exact (h.start index).mp hplan
  | succ depth ih =>
    obtain ⟨before, hbefore, hlinked⟩ := h.step index depth hplan
    exact .inr ⟨before, hlinked.lt_length, ih hbefore, hlinked⟩

theorem IsHopPlan.within_limit (h : mesh.IsHopPlan origin limit plan)
    (hplan : (plan index).isSome = true) : mesh.Within origin limit index := by
  obtain ⟨depth, hdepth⟩ := Option.isSome_iff_exists.mp hplan
  exact (h.within hdepth).mono (h.le index depth hdepth)

/-- No plan leaves out a station that is within the limit. -/
def PlansCover (mesh : Mesh) (origin limit : Nat) : Prop :=
  ∀ plan, mesh.IsHopPlan origin limit plan → ∀ index < mesh.stations.length,
    mesh.Within origin limit index → (plan index).isSome = true

/-- As long as not all stations of a plan are served, it is the turn of one of them: it is not served
yet, and the station that it is to get the message from is. -/
theorem IsHopPlan.exists_next (h : mesh.IsHopPlan origin limit plan) (served : Nat → Prop)
    (horigin : served origin) (hplan : plan index = some depth) (hmissing : ¬ served index) :
    ∃ before there depth, plan before = some depth ∧ plan there = some (depth + 1) ∧
      mesh.Linked before there ∧ served before ∧ ¬ served there := by
  -- The way back to the origin, which is served, passes a station whose turn it is.
  induction depth generalizing index with
  | zero =>
    rw [(h.start index).mp hplan] at hmissing
    exact absurd horigin hmissing
  | succ depth ih =>
    obtain ⟨before, hbefore, hlinked⟩ := h.step index depth hplan
    by_cases hserved : served before
    · exact ⟨before, index, depth, hbefore, hplan, hlinked, hserved, hmissing⟩
    · exact ih hbefore hserved

/-! ## Generous limits -/

/-- The stations that a plan names. -/
def planned (mesh : Mesh) (plan : Nat → Option Nat) : Finset Nat :=
  (Finset.range mesh.stations.length).filter fun index => (plan index).isSome = true

/-- On the way to a station of the plan there is one for every number of hops. -/
theorem IsHopPlan.exists_of_le (h : mesh.IsHopPlan origin limit plan)
    (hplan : plan index = some depth) (hle : hops ≤ depth) : ∃ stop, plan stop = some hops := by
  induction depth generalizing index with
  | zero => exact ⟨index, by rw [hplan, Nat.le_zero.mp hle]⟩
  | succ depth ih =>
    obtain ⟨before, hbefore, -⟩ := h.step index depth hplan
    by_cases hlast : hops = depth + 1
    · exact ⟨index, hlast ▸ hplan⟩
    · exact ih hbefore (by omega)

/-- A plan that uses up a limit for as many stations as there are names all of them. -/
theorem IsHopPlan.isSome_of_spent (h : mesh.IsHopPlan origin limit plan)
    (hlimit : mesh.stations.length ≤ limit + 1) {last : Nat} (hspent : plan last = some limit)
    (hindex : index < mesh.stations.length) : (plan index).isSome = true := by
  have hhops : Finset.range (limit + 1) ⊆
      (mesh.planned plan).image fun index => (plan index).getD 0 := by
    intro hops hmem
    obtain ⟨stop, hstop⟩ := h.exists_of_le hspent (Nat.le_of_lt_succ (Finset.mem_range.mp hmem))
    refine Finset.mem_image.mpr ⟨stop, Finset.mem_filter.mpr ⟨?_, ?_⟩, ?_⟩
    · exact Finset.mem_range.mpr (h.lt stop hops hstop)
    · rw [hstop, Option.isSome_some]
    · simp only [hstop, Option.getD_some]
  have hcard : (Finset.range mesh.stations.length).card ≤ (mesh.planned plan).card := calc
    (Finset.range mesh.stations.length).card ≤ (Finset.range (limit + 1)).card := by
      rwa [Finset.card_range, Finset.card_range]
    _ ≤ ((mesh.planned plan).image fun index => (plan index).getD 0).card :=
      Finset.card_le_card hhops
    _ ≤ (mesh.planned plan).card := Finset.card_image_le
  have hall : mesh.planned plan = Finset.range mesh.stations.length :=
    Finset.eq_of_subset_of_card_le (Finset.filter_subset _ _) hcard
  have hmem : index ∈ mesh.planned plan := by
    rw [hall]
    exact Finset.mem_range.mpr hindex
  exact (Finset.mem_filter.mp hmem).2

/-- **A limit for as many stations as there are** makes every plan cover what is within it. -/
theorem plansCover_of_length_le (hlimit : mesh.stations.length ≤ limit + 1) (origin : Nat) :
    mesh.PlansCover origin limit := by
  intro plan h index hindex hwithin
  by_cases hspent : ∃ last, plan last = some limit
  · obtain ⟨last, hlast⟩ := hspent
    exact h.isSome_of_spent hlimit hlast hindex
  · -- The limit is never used up, so the plan is closed under links.
    have hwithin' : ∀ hops index, index < mesh.stations.length → mesh.Within origin hops index →
        (plan index).isSome = true := by
      intro hops
      induction hops with
      | zero =>
        intro index _ hwithin
        rw [(h.start index).mpr hwithin, Option.isSome_some]
      | succ hops ih =>
        intro index hindex hwithin
        rcases hwithin with hwithin | ⟨before, hbefore, hwithin, hlinked⟩
        · exact ih index hindex hwithin
        · obtain ⟨depth, hdepth⟩ := Option.isSome_iff_exists.mp (ih before hbefore hwithin)
          have hle := h.le before depth hdepth
          have hne : depth ≠ limit := fun heq => hspent ⟨before, heq ▸ hdepth⟩
          exact h.closed before depth hdepth (by omega) index hindex hlinked
    exact hwithin' limit index hindex hwithin

end Mesh

end RadioGossip
