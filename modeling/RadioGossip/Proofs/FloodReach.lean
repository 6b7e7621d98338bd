import RadioGossip.Proofs.OldestFirst

/-!
# The reach of a flood

Which stations hold a message once its flood is over? All of them are within the limit that the hop
budget sets. But a station keeps the copy that came first, however little of its budget is left, and
drops those that come later. So a copy that took a detour may be all that a station has to pass on,
and the stations behind it may be left out although they are within the limit. The order of
deliveries decides this, and what it can decide are just the hop plans. The oldest frame first
reaches all stations within the limit, and every order does if every hop plan does.
-/

namespace RadioGossip

namespace Mesh

variable {mesh after : Mesh} {message : Message} {origin index : Nat} {plan : Nat → Option Nat}

/-- The station holds a copy of the message. -/
def Holds (mesh : Mesh) (message : Message) (index : Nat) : Prop :=
  ∃ station ∈ mesh.stations[index]?, ∃ copy ∈ station.node.cached, copy.isCopyOf message = true

instance (mesh : Mesh) (message : Message) (index : Nat) : Decidable (mesh.Holds message index) :=
  inferInstanceAs (Decidable (∃ station ∈ mesh.stations[index]?,
    ∃ copy ∈ station.node.cached, copy.isCopyOf message = true))

/-- The mesh after a station spread a message and frames were delivered in this order. -/
def flooded (mesh : Mesh) (origin : Nat) (message : Message) (order : List Nat) : Mesh :=
  (mesh.spread origin message).1.launch.run order

/-! ## Who holds the message -/

/-- The stations of the plan hold the message, and no others do. -/
theorem Realises.holds_iff (h : Realises plan message mesh after) (hopen : mesh.OpenTo message)
    (hindex : index < mesh.stations.length) :
    after.Holds message index ↔ (plan index).isSome = true := by
  have hlength := length_stations_of_outline_eq h.outline
  have hstation := List.getElem?_eq_getElem hindex
  have hstation' := List.getElem?_eq_getElem (hlength ▸ hindex : index < after.stations.length)
  have hcached := h.cached index _ _ hstation hstation'
  constructor
  · rintro ⟨station, hmem, copy, hcopy, hcopyOf⟩
    obtain rfl := Option.some.inj (hstation'.symm.trans hmem)
    rcases hcached with ⟨-, hsame⟩ | ⟨depth, taken, hdepth, -, -⟩
    · -- Nobody had the message before.
      have hnew := hopen.new _ (List.getElem_mem hindex)
      rw [hsame] at hcopy
      rw [Cache.contains_eq_false_iff, ← Message.key_of_isCopyOf hcopyOf] at hnew
      exact absurd (List.mem_map_of_mem hcopy) hnew
    · rw [hdepth, Option.isSome_some]
  · intro hsome
    rcases hcached with ⟨hnone, -⟩ | ⟨depth, taken, -, ⟨hcopyOf, -⟩, hbehind⟩
    · rw [hnone] at hsome
      cases hsome
    · refine ⟨_, hstation', taken, ?_, hcopyOf⟩
      rw [hbehind]
      exact List.mem_append_right _ List.mem_cons_self

theorem Holds.lt_length (h : mesh.Holds message index) : index < mesh.stations.length := by
  obtain ⟨station, hstation, -⟩ := h
  exact (List.getElem?_eq_some_iff.mp hstation).1

section Flood

variable {station : Station} (hopen : mesh.OpenTo message) (hmessage : message.IsFloodable 1)
  (horigin : mesh.stations[origin]? = some station)
  (hwrite : station.node.engine.readOnly = false)

include hopen hmessage horigin hwrite

/-- **Every order** ends with a hop plan. -/
theorem exists_plan_of_idle {order : List Nat}
    (hidle : (mesh.flooded origin message order).inFlight = []) :
    ∃ plan, mesh.IsHopPlan origin (message.ttl.toNat - 1) plan ∧
      Realises plan message mesh (mesh.flooded origin message order) := by
  obtain ⟨-, hspread⟩ := hopen.reaching_spread hmessage horigin hwrite
  obtain ⟨routes, hrun, hkept⟩ := hspread.run hopen hmessage order
  have hstart : (routes origin).isSome = true := by
    rw [hkept origin _ (Routes.extend_self ..), Option.isSome_some]
  exact ⟨routes.plan, hrun.isHopPlan_of_idle hstart hidle, hrun.realises⟩

/-- **Every hop plan** is that of some order. -/
theorem exists_order_of_plan (hplan : mesh.IsHopPlan origin (message.ttl.toNat - 1) plan) :
    ∃ order, (mesh.flooded origin message order).inFlight = [] ∧
      Realises plan message mesh (mesh.flooded origin message order) := by
  obtain ⟨-, hspread⟩ := hopen.reaching_spread hmessage horigin hwrite
  have hfollows : (Routes.extend (fun _ => none) origin []).Follows plan := by
    intro index depth hdepth
    by_cases heq : index = origin
    · rw [heq, Routes.plan, Routes.extend_self, Option.map_some, Option.some.injEq] at hdepth
      rw [← hdepth, heq]
      exact (hplan.start origin).mpr rfl
    · rw [Routes.plan, Routes.extend_of_ne heq] at hdepth
      cases hdepth
  obtain ⟨order, routes, hrun, rfl⟩ := hspread.exists_run_of_follows hopen hmessage hplan hfollows
    (by rw [Routes.extend_self, Option.isSome_some])
  -- What is still in flight makes no difference, so it may be delivered in any order.
  obtain ⟨count, hidle⟩ := exists_idle ((mesh.spread origin message).1.launch.run order)
  refine ⟨order ++ List.replicate count 0, ?_, ?_⟩
  · rwa [flooded, run_append]
  · rw [flooded, run_append]
    exact (hrun.run_of_plan hmessage.kept hplan _).realises

/-- **The oldest frame first** reaches every station within the limit. -/
theorem holds_of_within {count : Nat}
    (hidle : (mesh.flooded origin message (List.replicate count 0)).inFlight = [])
    (hindex : index < mesh.stations.length)
    (hwithin : mesh.Within origin (message.ttl.toNat - 1) index) :
    (mesh.flooded origin message (List.replicate count 0)).Holds message index := by
  obtain ⟨-, hspread⟩ := hopen.reaching_spread hmessage horigin hwrite
  have hinOrder := hspread.inOrder_of_start hmessage.kept
  obtain ⟨routes, hreached, hrun, hkept⟩ := hinOrder.run hspread hopen hmessage count
  have hbudget := hmessage.budget
  obtain ⟨route, hroute, -⟩ := hrun.exists_route_of_within
    (hkept origin _ (Routes.extend_self ..)) hidle hwithin hindex (by omega)
  refine (hreached.realises.holds_iff hopen hindex).mpr ?_
  rw [Routes.isSome_plan, hroute, Option.isSome_some]

/-- No order reaches a station that is not within the limit. -/
theorem within_of_holds {order : List Nat}
    (hidle : (mesh.flooded origin message order).inFlight = [])
    (hholds : (mesh.flooded origin message order).Holds message index) :
    mesh.Within origin (message.ttl.toNat - 1) index := by
  obtain ⟨plan, hplan, hrealises⟩ := exists_plan_of_idle hopen hmessage horigin hwrite hidle
  have hindex := hholds.lt_length
  rw [length_stations_of_outline_eq hrealises.outline] at hindex
  exact hplan.within_limit ((hrealises.holds_iff hopen hindex).mp hholds)

/-- Where no plan leaves out a station within the limit, no order does. -/
theorem holds_iff_of_plansCover (hcover : mesh.PlansCover origin (message.ttl.toNat - 1))
    {order : List Nat} (hidle : (mesh.flooded origin message order).inFlight = []) :
    (mesh.flooded origin message order).Holds message index ↔
      index < mesh.stations.length ∧ mesh.Within origin (message.ttl.toNat - 1) index := by
  obtain ⟨plan, hplan, hrealises⟩ := exists_plan_of_idle hopen hmessage horigin hwrite hidle
  constructor
  · intro hholds
    have hindex := hholds.lt_length
    rw [length_stations_of_outline_eq hrealises.outline] at hindex
    exact ⟨hindex, within_of_holds hopen hmessage horigin hwrite hidle hholds⟩
  · rintro ⟨hindex, hwithin⟩
    exact (hrealises.holds_iff hopen hindex).mpr (hcover plan hplan index hindex hwithin)

/-- Where all orders reach the same stations, no plan leaves out a station within the limit: some
order follows the plan, and it reaches what the oldest frame first does. -/
theorem plansCover_of_same_reach
    (hsame : ∀ order order', (mesh.flooded origin message order).inFlight = [] →
      (mesh.flooded origin message order').inFlight = [] → ∀ index,
        (mesh.flooded origin message order).Holds message index ↔
          (mesh.flooded origin message order').Holds message index) :
    mesh.PlansCover origin (message.ttl.toNat - 1) := by
  intro plan hplan index hindex hwithin
  obtain ⟨order, hidle, hrealises⟩ := exists_order_of_plan hopen hmessage horigin hwrite hplan
  obtain ⟨count, hcount⟩ := exists_idle (mesh.spread origin message).1.launch
  have holdest := holds_of_within hopen hmessage horigin hwrite hcount hindex hwithin
  exact (hrealises.holds_iff hopen hindex).mp ((hsame _ _ hidle hcount index).mpr holdest)

/-- **The reach of a flood.** A station of a mesh that is open to a message spreads it, and frames are
delivered until none is in flight. Whatever the order, the message takes the hops of some hop plan,
and so it reaches no station beyond the limit of its budget. Every hop plan is that of some order.
The oldest frame first comes to an end and reaches all stations within the limit. So whether the
reach depends on the order is a matter of the links alone: it does not if and only if no hop plan
leaves out a station within the limit. With a budget for as many hops as there are stations none does,
and every order reaches the stations within the limit. -/
theorem reach_by_order :
    (mesh.spread origin message).2 = .ok () ∧
    (∀ order, (mesh.flooded origin message order).inFlight = [] →
      (∃ plan, mesh.IsHopPlan origin (message.ttl.toNat - 1) plan ∧
        Realises plan message mesh (mesh.flooded origin message order)) ∧
      ∀ index, (mesh.flooded origin message order).Holds message index →
        mesh.Within origin (message.ttl.toNat - 1) index) ∧
    (∀ plan, mesh.IsHopPlan origin (message.ttl.toNat - 1) plan →
      ∃ order, (mesh.flooded origin message order).inFlight = [] ∧
        Realises plan message mesh (mesh.flooded origin message order)) ∧
    ((∃ count, (mesh.flooded origin message (List.replicate count 0)).inFlight = []) ∧
      ∀ count, (mesh.flooded origin message (List.replicate count 0)).inFlight = [] →
        ∀ index < mesh.stations.length,
          (mesh.flooded origin message (List.replicate count 0)).Holds message index ↔
            mesh.Within origin (message.ttl.toNat - 1) index) ∧
    ((∀ order order', (mesh.flooded origin message order).inFlight = [] →
        (mesh.flooded origin message order').inFlight = [] → ∀ index,
          (mesh.flooded origin message order).Holds message index ↔
            (mesh.flooded origin message order').Holds message index) ↔
      mesh.PlansCover origin (message.ttl.toNat - 1)) ∧
    (mesh.stations.length ≤ message.ttl.toNat →
      ∀ order, (mesh.flooded origin message order).inFlight = [] → ∀ index,
        (mesh.flooded origin message order).Holds message index ↔
          index < mesh.stations.length ∧ mesh.Within origin (message.ttl.toNat - 1) index) := by
  refine ⟨(hopen.reaching_spread hmessage horigin hwrite).1, ?_, ?_, ⟨exists_idle _, ?_⟩,
    ⟨?_, ?_⟩, ?_⟩
  · intro order hidle
    exact ⟨exists_plan_of_idle hopen hmessage horigin hwrite hidle,
      fun index => within_of_holds hopen hmessage horigin hwrite hidle⟩
  · exact fun plan => exists_order_of_plan hopen hmessage horigin hwrite
  · intro count hidle index hindex
    constructor
    · exact within_of_holds hopen hmessage horigin hwrite hidle
    · exact holds_of_within hopen hmessage horigin hwrite hidle hindex
  · exact plansCover_of_same_reach hopen hmessage horigin hwrite
  · intro hcover order order' hidle hidle' index
    rw [holds_iff_of_plansCover hopen hmessage horigin hwrite hcover hidle,
      holds_iff_of_plansCover hopen hmessage horigin hwrite hcover hidle']
  · intro hlength order hidle index
    have hcover : mesh.PlansCover origin (message.ttl.toNat - 1) :=
      plansCover_of_length_le (by omega) origin
    exact holds_iff_of_plansCover hopen hmessage horigin hwrite hcover hidle

end Flood

/-! ## A detour -/

/-- A station with two neighbours that are neighbours themselves, and one more behind the first of
them. -/
def paw : Mesh :=
  let station (callsign : UInt8) : Station := (Station.ofNode (.new (.ofLetter callsign)
    { cacheSize := 2, queueSize := 2 } 1)).registerObserver.1
  ofStations [station 79, station 65, station 88, station 89] [(0, 2), (0, 1), (1, 2), (2, 3)]

/-- A message from the first station of the paw that may take three hops. -/
def pawMessage : Message :=
  { Message.make (.ofLetter 79) 7 .cq [1] with ttl := 3 }

/-- From each station of the paw it is two links at most to any other. -/
theorem connected_paw : paw.Connected := by
  have hlinked : ∀ here < paw.stations.length, ∀ there < paw.stations.length,
      here = there ∨ paw.Linked here there ∨
        ∃ between < paw.stations.length, paw.Linked here between ∧ paw.Linked between there := by
    decide +kernel
  intro here hhere there hthere
  rcases hlinked here hhere there hthere with rfl | hlinked | ⟨between, -, hlinked, hlinked'⟩
  · exact .refl
  · exact .single hlinked
  · exact .tail (.single hlinked) hlinked'

theorem readyFor_paw : paw.ReadyFor pawMessage :=
  readyFor_of_new (by decide +kernel) (by decide +kernel) (by decide +kernel) (by decide +kernel)
    (by decide) (by decide +kernel)

/-- In the paw the oldest frame first reaches all four stations. So does any order if the message may
take one hop more, as by way of the second station. -/
theorem reach_by_order_paw :
    let generous := { pawMessage with ttl := 4 }
    let detour := [1, 2, 0, 0, 0, 0, 0]
    paw.OpenTo pawMessage ∧ pawMessage.IsFloodable 1 ∧
      (∃ station, paw.stations[0]? = some station ∧ station.node.engine.readOnly = false) ∧
      (paw.spread 0 pawMessage).2 = .ok () ∧
      (∀ index < paw.stations.length,
        (paw.flooded 0 pawMessage (List.replicate 7 0)).Holds pawMessage index) ∧
      paw.OpenTo generous ∧ generous.IsFloodable 1 ∧
      paw.stations.length ≤ generous.ttl.toNat ∧ (paw.flooded 0 generous detour).inFlight = [] ∧
      ∀ index < paw.stations.length, (paw.flooded 0 generous detour).Holds generous index := by
  intro generous detour
  have hopen := readyFor_paw.openTo
  have hmessage : pawMessage.IsFloodable 1 := ⟨by decide, by decide, rfl, by decide, by decide⟩
  have hfirst : 0 < paw.stations.length := by decide +kernel
  have hwrite : ∀ station ∈ paw.stations, station.node.engine.readOnly = false := by
    decide +kernel
  have horigin := List.getElem?_eq_getElem hfirst
  have hwrites := hwrite _ (List.getElem_mem hfirst)
  obtain ⟨hok, -, -, ⟨-, holdest⟩, -⟩ := reach_by_order hopen hmessage horigin hwrites
  have hidle : (paw.flooded 0 pawMessage (List.replicate 7 0)).inFlight = [] := by decide +kernel
  have hwithin : ∀ index < paw.stations.length,
      paw.Within 0 (pawMessage.ttl.toNat - 1) index := by decide +kernel
  have hready' : paw.ReadyFor generous := readyFor_of_new (by decide +kernel) (by decide +kernel)
    (by decide +kernel) (by decide +kernel) (by decide) (by decide +kernel)
  have hmessage' : generous.IsFloodable 1 := ⟨by decide, by decide, rfl, by decide, by decide⟩
  have hlength : paw.stations.length ≤ generous.ttl.toNat := by decide +kernel
  have hidle' : (paw.flooded 0 generous detour).inFlight = [] := by decide +kernel
  obtain ⟨-, -, -, -, -, hall⟩ := reach_by_order hready'.openTo hmessage' horigin hwrites
  refine ⟨hopen, hmessage, ⟨_, horigin, hwrites⟩, hok, fun index hindex => ?_, hready'.openTo,
    hmessage', hlength, hidle', fun index hindex => ?_⟩
  · exact (holdest 7 hidle index hindex).mpr (hwithin index hindex)
  · exact (hall hlength detour hidle' index).mpr ⟨hindex, (hwithin index hindex).mono (by decide)⟩

/-- **A detour cuts the reach.** If the copy that went round by the second station is delivered to the
third before the one that came straight, the third has no budget to pass on. Then the last station is
left out, though it is within the limit and the oldest frame first reaches it. -/
theorem reach_depends_on_order :
    paw.OpenTo pawMessage ∧ paw.Connected ∧ pawMessage.IsFloodable 1 ∧
      (∃ station, paw.stations[0]? = some station ∧ station.node.engine.readOnly = false) ∧
      (paw.flooded 0 pawMessage (List.replicate 7 0)).inFlight = [] ∧
      (paw.flooded 0 pawMessage [1, 2, 0, 0]).inFlight = [] ∧
      paw.Within 0 (pawMessage.ttl.toNat - 1) 3 ∧
      (paw.flooded 0 pawMessage (List.replicate 7 0)).Holds pawMessage 3 ∧
      ¬ (paw.flooded 0 pawMessage [1, 2, 0, 0]).Holds pawMessage 3 := by
  have hfirst : 0 < paw.stations.length := by decide +kernel
  have hwrite : ∀ station ∈ paw.stations, station.node.engine.readOnly = false := by
    decide +kernel
  refine ⟨readyFor_paw.openTo, connected_paw, ⟨by decide, by decide, rfl, by decide, by decide⟩,
    ⟨_, List.getElem?_eq_getElem hfirst, hwrite _ (List.getElem_mem hfirst)⟩, ?_⟩
  decide +kernel

end Mesh

end RadioGossip
