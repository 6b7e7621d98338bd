import RadioGossip.Proofs.Quiescence
import RadioGossip.Proofs.Reach

/-!
# Orders of delivery and hop plans

In which order frames are delivered decides along which routes a flood grows, and so which hop plan
it ends with. Every order ends with some plan. And every plan is that of some order: deliver the
copies that the plan asks for, one after the other, and then the rest. That all stations of the plan
have their copies by then makes what is left stale, for a copy is sent only where the budget allows,
and there the plan is closed.
-/

namespace RadioGossip

namespace Routes

/-- After how many hops the stations got their copies: the origin itself is the first of a route. -/
def plan (routes : Routes) (index : Nat) : Option Nat :=
  (routes index).map fun route => route.length - 1

theorem isSome_plan (routes : Routes) (index : Nat) :
    (routes.plan index).isSome = (routes index).isSome := by
  rw [plan, Option.isSome_map]

/-- The stations that have got their copies got them after as many hops as the plan says. -/
def Follows (routes : Routes) (plan : Nat → Option Nat) : Prop :=
  ∀ index depth, routes.plan index = some depth → plan index = some depth

end Routes

namespace Mesh

variable {base mesh : Mesh} {message : Message} {routes : Routes} {origin index depth : Nat}
  {plan : Nat → Option Nat}

/-! ## The plan of a flood -/

theorem GrowsFrom.plan_eq_some_iff (h : base.GrowsFrom origin routes) :
    routes.plan index = some depth ↔ ∃ route, routes index = some route ∧
      route.length = depth + 1 := by
  rw [Routes.plan, Option.map_eq_some_iff]
  refine exists_congr fun route => and_congr_right fun hroute => ?_
  have hpos := h.length_pos hroute
  omega

/-- **The plan of a flood.** When nothing is in flight, the lengths of the routes are a hop plan. -/
theorem Reaching.isHopPlan_of_idle (h : Reaching base message origin routes mesh)
    (horigin : (routes origin).isSome = true) (hidle : mesh.inFlight = []) :
    base.IsHopPlan origin (message.ttl.toNat - 1) routes.plan := by
  have hstart : routes origin = some [origin] := by
    obtain ⟨route, hroute⟩ := Option.isSome_iff_exists.mp horigin
    exact h.grows.start origin route hroute
  refine ⟨?_, ?_, ?_, ?_, ?_⟩
  · intro index
    rw [h.grows.plan_eq_some_iff]
    constructor
    · rintro ⟨route, hroute, hlength⟩
      refine (h.grows.parent index route hroute).resolve_right ?_
      rintro ⟨before, route', hbefore, -, rfl⟩
      have hpos := h.grows.length_pos hbefore
      rw [List.length_append, List.length_singleton] at hlength
      omega
    · rintro rfl
      exact ⟨_, hstart, rfl⟩
  · intro index depth hplan
    obtain ⟨route, hroute, hlength⟩ := h.grows.plan_eq_some_iff.mp hplan
    rcases h.grows.parent index route hroute with rfl | ⟨before, route', hbefore, hlinked, rfl⟩
    · rw [hstart, Option.some.injEq] at hroute
      rw [← hroute, List.length_singleton] at hlength
      omega
    · rw [List.length_append, List.length_singleton] at hlength
      exact ⟨before, h.grows.plan_eq_some_iff.mpr ⟨route', hbefore, by omega⟩, hlinked⟩
  · intro index depth hplan
    obtain ⟨route, hroute, -⟩ := h.grows.plan_eq_some_iff.mp hplan
    exact h.isFlood.lt index route hroute
  · intro index depth hplan
    obtain ⟨route, hroute, hlength⟩ := h.grows.plan_eq_some_iff.mp hplan
    have hbudget := h.budget index route hroute
    omega
  · intro before depth hplan hlimit index hindex hlinked
    obtain ⟨route, hroute, hlength⟩ := h.grows.plan_eq_some_iff.mp hplan
    rw [Routes.isSome_plan]
    refine (h.relayed before route hroute (by omega) index hindex hlinked).resolve_right ?_
    rintro ⟨flight, hflight, -⟩
    rw [hidle] at hflight
    cases hflight

/-- What became of a mesh in which a message took the hops of a plan: behind all that they held
before, the stations of the plan hold a copy with these hops behind it, and the others hold nothing
more. The station itself is one more hop. -/
structure Realises (plan : Nat → Option Nat) (message : Message) (before after : Mesh) : Prop where
  outline : after.outline = before.outline
  cached : ∀ index station station', before.stations[index]? = some station →
    after.stations[index]? = some station' →
      (plan index = none ∧ station'.node.cached = station.node.cached) ∨
      ∃ depth copy, plan index = some depth ∧ copy.IsAfter message (depth + 1) ∧
        station'.node.cached = station.node.cached ++ [copy]

theorem Reaching.realises (h : Reaching base message origin routes mesh) :
    Realises routes.plan message base mesh where
  outline := h.outline
  cached index station station' hstation hstation' := by
    have hcached := h.cached index station' station hstation' hstation
    cases hroute : routes index with
    | none =>
      rw [hroute, Option.map_none, Option.toList_none, List.append_nil] at hcached
      exact .inl ⟨by rw [Routes.plan, hroute, Option.map_none], hcached⟩
    | some route =>
      rw [hroute] at hcached
      have hpos := h.grows.length_pos hroute
      have hafter : (base.copyAlong message route).IsAfter message route.length :=
        isAfter_copyAlong (h.budget index route hroute)
      refine .inr ⟨route.length - 1, _, by rw [Routes.plan, hroute, Option.map_some], ?_, hcached⟩
      rwa [Nat.sub_add_cancel hpos]

/-! ## Any order -/

/-- **One delivery** carries the flood on, whichever frame is delivered. -/
theorem Reaching.step (h : Reaching base message origin routes mesh)
    (hopen : base.OpenTo message) (hmessage : message.IsFloodable 1) (place : Nat) :
    ∃ routes', Reaching base message origin routes' (mesh.step place) ∧
      ∀ index route, routes index = some route → routes' index = some route := by
  cases hflight : mesh.inFlight[place]? with
  | none =>
    rw [step_eq_self hflight]
    exact ⟨routes, h, fun _ _ => id⟩
  | some flight =>
    rcases h.stale_or_brings (List.mem_of_getElem? hflight) with
      hstale | ⟨hlt, hnone, here, route, hbrings⟩
    · exact ⟨routes, (h.step_of_isStale hmessage.kept hflight hstale).1, fun _ _ => id⟩
    · exact ⟨_, (h.step_of_brings hopen hmessage hflight hlt hnone hbrings).1,
        fun _ _ => Routes.extend_of_none hnone⟩

/-- **A run** carries the flood on, in whichever order it delivers. -/
theorem Reaching.run (h : Reaching base message origin routes mesh)
    (hopen : base.OpenTo message) (hmessage : message.IsFloodable 1) (order : List Nat) :
    ∃ routes', Reaching base message origin routes' (mesh.run order) ∧
      ∀ index route, routes index = some route → routes' index = some route := by
  induction order generalizing mesh routes with
  | nil => exact ⟨routes, h, fun _ _ => id⟩
  | cons place order ih =>
    obtain ⟨routes', hstep, hkept⟩ := h.step hopen hmessage place
    obtain ⟨routes'', hrun, hkept'⟩ := ih hstep
    exact ⟨routes'', hrun, fun index route hroute => hkept' index route (hkept index route hroute)⟩

/-! ## An order for every plan -/

/-- The stations that have no copy yet. -/
def waiting (base : Mesh) (routes : Routes) : Finset Nat :=
  (Finset.range base.stations.length).filter fun index => routes index = none

theorem card_waiting_extend_lt {route : List Nat} (hlt : index < base.stations.length)
    (hnone : routes index = none) :
    (base.waiting (routes.extend index route)).card < (base.waiting routes).card := by
  refine Finset.card_lt_card (Finset.ssubset_iff_subset_ne.mpr ⟨?_, ?_⟩)
  · intro other hother
    obtain ⟨hrange, hother⟩ := Finset.mem_filter.mp hother
    refine Finset.mem_filter.mpr ⟨hrange, Option.eq_none_iff_forall_ne_some.mpr ?_⟩
    intro route' hroute'
    rw [Routes.extend_of_none hnone hroute'] at hother
    cases hother
  · intro heq
    have hmem : index ∈ base.waiting routes :=
      Finset.mem_filter.mpr ⟨Finset.mem_range.mpr hlt, hnone⟩
    rw [← heq, waiting, Finset.mem_filter, Routes.extend_self] at hmem
    cases hmem.2

/-- As long as the flood follows a plan and has not come to the end of it, it can be carried on so
that it still follows the plan. -/
theorem Reaching.exists_step_of_follows (h : Reaching base message origin routes mesh)
    (hopen : base.OpenTo message) (hmessage : message.IsFloodable 1)
    (hplan : base.IsHopPlan origin (message.ttl.toNat - 1) plan) (hfollows : routes.Follows plan)
    (horigin : (routes origin).isSome = true) (hindex : plan index = some depth)
    (hmissing : routes index = none) :
    ∃ place there route, Reaching base message origin (routes.extend there route)
        (mesh.step place) ∧
      (routes.extend there route).Follows plan ∧ there < base.stations.length ∧
      routes there = none := by
  obtain ⟨before, there, depth, hbefore, hthere, hlinked, hserved, hwaiting⟩ :=
    hplan.exists_next (fun index => (routes index).isSome = true) horigin hindex
      (by simp [hmissing])
  have hnone : routes there = none := by simpa using hwaiting
  have hlt := hplan.lt there (depth + 1) hthere
  have hlimit := hplan.le there (depth + 1) hthere
  -- The neighbour has its copy after as many hops as planned, so it has budget left.
  obtain ⟨route, hroute⟩ := Option.isSome_iff_exists.mp hserved
  have hlength : route.length = depth + 1 := by
    have hpos := h.grows.length_pos hroute
    have hsame := hfollows before (route.length - 1) (by rw [Routes.plan, hroute, Option.map_some])
    rw [hbefore, Option.some.injEq] at hsame
    omega
  obtain ⟨flight, hflight, rfl, hbrings⟩ :=
    (h.relayed before route hroute (by omega) there hlt hlinked).resolve_left (by simp [hnone])
  obtain ⟨place, hplace⟩ := List.mem_iff_getElem?.mp hflight
  refine ⟨place, _, route, (h.step_of_brings hopen hmessage hplace hlt hnone hbrings).1, ?_, hlt,
    hnone⟩
  intro other depth' hother
  by_cases heq : other = flight.target.station
  · rw [heq, Routes.plan, Routes.extend_self, Option.map_some, Option.some.injEq] at hother
    rw [List.length_append, List.length_singleton] at hother
    rw [heq, hthere, ← hother, hlength]
    rfl
  · rw [Routes.plan, Routes.extend_of_ne heq] at hother
    exact hfollows other depth' hother

/-- **Any plan can be followed** to its end. -/
theorem Reaching.exists_run_of_follows (h : Reaching base message origin routes mesh)
    (hopen : base.OpenTo message) (hmessage : message.IsFloodable 1)
    (hplan : base.IsHopPlan origin (message.ttl.toNat - 1) plan) (hfollows : routes.Follows plan)
    (horigin : (routes origin).isSome = true) :
    ∃ order routes', Reaching base message origin routes' (mesh.run order) ∧
      routes'.plan = plan := by
  -- Each delivery that the plan asks for leaves one station less waiting.
  induction hcount : (base.waiting routes).card using Nat.strongRecOn generalizing mesh routes with
  | ind count ih =>
    by_cases hmissing : ∃ index depth, plan index = some depth ∧ routes index = none
    · obtain ⟨index, depth, hindex, hnone⟩ := hmissing
      obtain ⟨place, there, route, hstep, hfollows', hlt, hwaiting⟩ :=
        h.exists_step_of_follows hopen hmessage hplan hfollows horigin hindex hnone
      have hless : (base.waiting (routes.extend there route)).card < count :=
        hcount ▸ card_waiting_extend_lt hlt hwaiting
      obtain ⟨order, routes', hrun, hrealised⟩ :=
        ih _ hless hstep hfollows' (Routes.isSome_extend horigin) rfl
      exact ⟨place :: order, routes', hrun, hrealised⟩
    · refine ⟨[], routes, h, funext fun index => ?_⟩
      cases hindex : routes.plan index with
      | some depth => exact (hfollows index depth hindex).symm
      | none =>
        cases hdepth : plan index with
        | none => rfl
        | some depth =>
          refine absurd ⟨index, depth, hdepth, ?_⟩ hmissing
          rwa [Routes.plan, Option.map_eq_none_iff] at hindex

/-- A flood that came to the end of a plan stays there. -/
theorem Reaching.run_of_plan (h : Reaching base message origin routes mesh)
    (hkept : message.isNoCache = false)
    (hplan : base.IsHopPlan origin (message.ttl.toNat - 1) routes.plan) (order : List Nat) :
    Reaching base message origin routes (mesh.run order) := by
  induction order generalizing mesh with
  | nil => exact h
  | cons place order ih =>
    refine ih ?_
    cases hflight : mesh.inFlight[place]? with
    | none =>
      rwa [step_eq_self hflight]
    | some flight =>
      have hstale : base.IsStale message routes flight := by
        refine (h.stale_or_brings (List.mem_of_getElem? hflight)).resolve_right ?_
        rintro ⟨hlt, hnone, here, route, hbrings⟩
        have hpos := h.grows.length_pos hbrings.sender
        have hspare := hbrings.budget
        have hreached := hplan.closed here (route.length - 1)
          (by rw [Routes.plan, hbrings.sender, Option.map_some]) (by omega) _ hlt hbrings.linked
        rw [Routes.isSome_plan, hnone] at hreached
        cases hreached
      exact (h.step_of_isStale hkept hflight hstale).1

/-! ## Rest -/

theorem run_append (mesh : Mesh) (order order' : List Nat) :
    mesh.run (order ++ order') = (mesh.run order).run order' :=
  List.foldl_append

/-- Delivering the oldest frame again and again leaves nothing in flight in the end. -/
theorem exists_idle (mesh : Mesh) :
    ∃ count, (mesh.run (List.replicate count 0)).inFlight = [] := by
  induction hpotential : mesh.potential using Nat.strongRecOn generalizing mesh with
  | ind potential ih =>
    by_cases hidle : mesh.inFlight = []
    · exact ⟨0, hidle⟩
    · have hless := potential_step_lt (List.length_pos_iff.mpr hidle)
      obtain ⟨count, hcount⟩ := ih _ (hpotential ▸ hless) (mesh.step 0) rfl
      exact ⟨count + 1, hcount⟩

end Mesh

end RadioGossip
