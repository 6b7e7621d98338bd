import RadioGossip.Proofs.Schedules

/-!
# The oldest frame first

When it is always the oldest frame that is delivered, no copy overtakes another. Then copies come in
the order of the hops behind them: those in flight differ by one hop at most, the further ones stand
behind the others, and no station ever got its copy later than a neighbour would allow. So a flood
comes to each station on a shortest way, and as far as its budget goes.
-/

namespace RadioGossip

namespace Mesh

variable {base mesh : Mesh} {message : Message} {routes : Routes} {origin : Nat}

/-- A flood in which no copy overtook another. -/
structure InOrder (base : Mesh) (message : Message) (routes : Routes) (mesh : Mesh) : Prop where
  /-- A frame further behind has come as many hops or more. -/
  sorted : mesh.inFlight.Pairwise fun flight later => ∀ hops hops',
    message.HasCome hops flight.data → message.HasCome hops' later.data → hops ≤ hops'
  /-- Nothing in flight would have made a route shorter. -/
  early : ∀ index route, routes index = some route → ∀ flight ∈ mesh.inFlight, ∀ hops,
    message.HasCome hops flight.data → route.length ≤ hops + 1
  /-- A neighbour has got a copy with one hop more at most, or will get one. -/
  prompt : ∀ here route, routes here = some route → route.length < message.ttl.toNat →
    ∀ there < base.stations.length, base.Linked here there →
      (∃ route', routes there = some route' ∧ route'.length ≤ route.length + 1) ∨
      ∃ flight ∈ mesh.inFlight, flight.target.station = there ∧
        message.HasCome route.length flight.data

/-! ## Copies in flight -/

/-- If a frame is no receipt, it has come as many hops as the route is long that it goes on along. -/
theorem length_eq_of_hasCome (hkept : message.isNoCache = false) {here hops : Nat}
    {route : List Nat} {flight : Flight}
    (h : base.Brings message routes here route flight ∨ message.IsAnsweredBy flight.data)
    (hcome : message.HasCome hops flight.data) : route.length = hops := by
  rcases h with hbrings | hanswered
  · exact hbrings.hasCome.hops_eq hcome
  · exact absurd hcome (Message.not_hasCome_of_isAnsweredBy hkept hanswered)

/-- A copy in flight has come as many hops as the route of some station is long. -/
theorem Reaching.exists_route_of_hasCome (h : Reaching base message origin routes mesh)
    (hkept : message.isNoCache = false) {flight : Flight} {hops : Nat}
    (hflight : flight ∈ mesh.inFlight) (hcome : message.HasCome hops flight.data) :
    ∃ here route, routes here = some route ∧ route.length = hops := by
  rcases h.carried flight hflight with ⟨here, route, hbrings⟩ | hanswered
  · exact ⟨here, route, hbrings.sender, length_eq_of_hasCome hkept (.inl hbrings) hcome⟩
  · exact absurd hcome (Message.not_hasCome_of_isAnsweredBy hkept hanswered)

/-- The copies in flight differ by one hop at most. -/
theorem InOrder.hops_le (h : InOrder base message routes mesh)
    (hreaching : Reaching base message origin routes mesh) (hkept : message.isNoCache = false)
    {flight other : Flight} {hops hops' : Nat} (hflight : flight ∈ mesh.inFlight)
    (hcome : message.HasCome hops flight.data) (hother : other ∈ mesh.inFlight)
    (hcome' : message.HasCome hops' other.data) : hops' ≤ hops + 1 := by
  obtain ⟨here, route, hroute, rfl⟩ := hreaching.exists_route_of_hasCome hkept hother hcome'
  exact h.early here route hroute flight hflight hops hcome

/-- No route is longer than that of a station that gets its copy now. -/
theorem InOrder.length_le_of_extend (h : InOrder base message routes mesh) {flight : Flight}
    {here : Nat} {route : List Nat} (hflight : flight ∈ mesh.inFlight)
    (hbrings : base.Brings message routes here route flight) {index : Nat} {route' : List Nat}
    (hroute' : routes.extend flight.target.station route index = some route') :
    route'.length ≤ route.length + 1 := by
  rcases Routes.of_extend_eq_some hroute' with ⟨-, rfl⟩ | hold
  · rw [List.length_append, List.length_singleton]
  · exact h.early index route' hold flight hflight _ hbrings.hasCome

/-! ## One delivery -/

/-- What is stale was the oldest frame, and is gone. -/
theorem InOrder.step_of_isStale (h : InOrder base message routes mesh)
    (hkept : message.isNoCache = false) {flight : Flight} {rest : List Flight}
    (hinFlight : mesh.inFlight = flight :: rest) (hstale : base.IsStale message routes flight)
    {after : Mesh} (hafter : after.inFlight = rest) : InOrder base message routes after := by
  obtain ⟨hsorted, hearly, hprompt⟩ := h
  rw [hinFlight] at hsorted hearly hprompt
  refine ⟨?_, ?_, ?_⟩
  · rw [hafter]
    exact (List.pairwise_cons.mp hsorted).2
  · intro index route hroute other hother
    rw [hafter] at hother
    exact hearly index route hroute other (List.mem_cons_of_mem _ hother)
  · intro here route hroute hbudget there hthere hlinked
    refine (hprompt here route hroute hbudget there hthere hlinked).elim .inl ?_
    rintro ⟨other, hother, rfl, hcome⟩
    rcases List.mem_cons.mp hother with rfl | hother
    · -- The copy came to a station that has one, and not one that came later.
      rcases hstale with hanswered | hsome | hout
      · exact absurd hcome (Message.not_hasCome_of_isAnsweredBy hkept hanswered)
      · obtain ⟨route', hroute'⟩ := Option.isSome_iff_exists.mp hsome
        exact .inl ⟨route', hroute', hearly _ route' hroute' _ List.mem_cons_self _ hcome⟩
      · exact absurd hthere (Nat.not_lt.mpr hout)
    · exact .inr ⟨other, hafter ▸ hother, rfl, hcome⟩

/-- A fresh copy was the oldest frame, so what its station sends is the furthest. -/
theorem InOrder.step_of_brings (h : InOrder base message routes mesh)
    (hreaching : Reaching base message origin routes mesh) (hkept : message.isNoCache = false)
    {flight : Flight} {rest sent : List Flight} {here : Nat} {route : List Nat}
    (hinFlight : mesh.inFlight = flight :: rest) (hnone : routes flight.target.station = none)
    (hbrings : base.Brings message routes here route flight) {after : Mesh}
    (hreached : Reaching base message origin (routes.extend flight.target.station route) after)
    (hafter : after.inFlight = rest ++ sent)
    (hsent : ∀ other ∈ sent, base.Brings message (routes.extend flight.target.station route)
        flight.target.station (route ++ [flight.target.station]) other ∨
      message.IsAnsweredBy other.data) :
    InOrder base message (routes.extend flight.target.station route) after := by
  have hself := routes.extend_self flight.target.station route
  have hlength : (route ++ [flight.target.station]).length = route.length + 1 := by simp
  have hcome := hbrings.hasCome
  have hfirst : flight ∈ mesh.inFlight := hinFlight ▸ List.mem_cons_self
  have hbehind : ∀ other ∈ rest, other ∈ mesh.inFlight := fun other hother =>
    hinFlight ▸ List.mem_cons_of_mem flight hother
  obtain ⟨hnext, hsorted⟩ := List.pairwise_cons.mp (hinFlight ▸ h.sorted)
  -- What is left has come as far as this copy or one hop further, what is sent just that.
  have hrest : ∀ other ∈ rest, ∀ hops, message.HasCome hops other.data →
      route.length ≤ hops ∧ hops ≤ route.length + 1 := fun other hother hops hcome' =>
    ⟨hnext other hother _ _ hcome hcome',
      h.hops_le hreaching hkept hfirst hcome (hbehind other hother) hcome'⟩
  have hfurther : ∀ other ∈ sent, ∀ hops, message.HasCome hops other.data →
      hops = route.length + 1 := by
    intro other hother hops hcome'
    rw [← length_eq_of_hasCome hkept (hsent other hother) hcome', hlength]
  refine ⟨?_, ?_, ?_⟩
  · rw [hafter]
    refine List.pairwise_append.mpr ⟨hsorted, ?_, ?_⟩
    · refine List.pairwise_of_forall_mem_list fun other hother other' hother' => ?_
      intro hops hops' hhops hhops'
      rw [hfurther other hother hops hhops, hfurther other' hother' hops' hhops']
    · intro other hother other' hother' hops hops' hhops hhops'
      rw [hfurther other' hother' hops' hhops']
      exact (hrest other hother hops hhops).2
  · intro index route' hroute' other hother hops hhops
    have hle := h.length_le_of_extend hfirst hbrings hroute'
    rw [hafter] at hother
    rcases List.mem_append.mp hother with hother | hother
    · have hge := (hrest other hother hops hhops).1
      omega
    · have heq := hfurther other hother hops hhops
      omega
  · intro here' route' hroute' hbudget there hthere hlinked
    rcases Routes.of_extend_eq_some hroute' with ⟨rfl, rfl⟩ | hold
    · -- The station has sent its copy to all its neighbours just now.
      rcases hreached.relayed _ _ hself hbudget there hthere hlinked with
        hsome | ⟨other, hother, htarget, hbrings'⟩
      · obtain ⟨route'', hroute''⟩ := Option.isSome_iff_exists.mp hsome
        have hle := h.length_le_of_extend hfirst hbrings hroute''
        exact .inl ⟨route'', hroute'', by omega⟩
      · exact .inr ⟨other, hother, htarget, hbrings'.hasCome⟩
    · rcases h.prompt here' route' hold hbudget there hthere hlinked with
        ⟨route'', hroute'', hle⟩ | ⟨other, hother, rfl, hcome'⟩
      · exact .inl ⟨route'', Routes.extend_of_none hnone hroute'', hle⟩
      · rcases List.mem_cons.mp (hinFlight ▸ hother) with rfl | hother
        · refine .inl ⟨_, hself, ?_⟩
          rw [hlength, hcome'.hops_eq hcome]
        · exact .inr ⟨other, hafter ▸ List.mem_append_left sent hother, rfl, hcome'⟩

/-! ## Runs -/

/-- At the beginning of a flood all copies in flight have come one hop. -/
theorem Reaching.inOrder_of_start (hkept : message.isNoCache = false)
    (h : Reaching base message origin (Routes.extend (fun _ => none) origin []) mesh) :
    InOrder base message (Routes.extend (fun _ => none) origin []) mesh := by
  have hroute : ∀ index route, Routes.extend (fun _ => none) origin [] index = some route →
      route.length = 1 := by
    intro index route hroute
    rcases Routes.of_extend_eq_some hroute with ⟨-, rfl⟩ | hold
    · rfl
    · cases hold
  have hcome : ∀ flight ∈ mesh.inFlight, ∀ hops, message.HasCome hops flight.data → hops = 1 := by
    intro flight hflight hops hcome
    obtain ⟨here, route, hhere, rfl⟩ := h.exists_route_of_hasCome hkept hflight hcome
    exact hroute here route hhere
  refine ⟨?_, ?_, ?_⟩
  · refine List.pairwise_of_forall_mem_list fun flight hflight later hlater => ?_
    intro hops hops' hcome' hcome''
    rw [hcome flight hflight hops hcome', hcome later hlater hops' hcome'']
  · intro index route hindex flight hflight hops hcome'
    rw [hroute index route hindex, hcome flight hflight hops hcome']
    exact Nat.le_succ 1
  · intro here route hhere hbudget there hthere hlinked
    rcases h.relayed here route hhere hbudget there hthere hlinked with
      hsome | ⟨flight, hflight, htarget, hbrings⟩
    · obtain ⟨route', hroute'⟩ := Option.isSome_iff_exists.mp hsome
      refine .inl ⟨route', hroute', ?_⟩
      rw [hroute there route' hroute', hroute here route hhere]
      exact Nat.le_succ 1
    · exact .inr ⟨flight, hflight, htarget, hbrings.hasCome⟩

/-- **Delivering the oldest frame** keeps the flood in order. -/
theorem InOrder.step (h : InOrder base message routes mesh)
    (hreaching : Reaching base message origin routes mesh) (hopen : base.OpenTo message)
    (hmessage : message.IsFloodable 1) :
    ∃ routes', Reaching base message origin routes' (mesh.step 0) ∧
      InOrder base message routes' (mesh.step 0) ∧
      ∀ index route, routes index = some route → routes' index = some route := by
  cases hinFlight : mesh.inFlight with
  | nil =>
    rw [step_eq_self (by rw [hinFlight, List.getElem?_nil])]
    exact ⟨routes, hreaching, h, fun _ _ => id⟩
  | cons flight rest =>
    have hflight : mesh.inFlight[0]? = some flight := by rw [hinFlight]; rfl
    have hrest : mesh.inFlight.eraseIdx 0 = rest := by rw [hinFlight]; rfl
    rcases hreaching.stale_or_brings (List.mem_of_getElem? hflight) with
      hstale | ⟨hlt, hnone, here, route, hbrings⟩
    · obtain ⟨hreached, hafter⟩ := hreaching.step_of_isStale hmessage.kept hflight hstale
      rw [hrest] at hafter
      exact ⟨routes, hreached, h.step_of_isStale hmessage.kept hinFlight hstale hafter,
        fun _ _ => id⟩
    · obtain ⟨hreached, sent, hafter, hsent⟩ :=
        hreaching.step_of_brings hopen hmessage hflight hlt hnone hbrings
      rw [hrest] at hafter
      exact ⟨_, hreached, h.step_of_brings hreaching hmessage.kept hinFlight hnone hbrings hreached
        hafter hsent, fun _ _ => Routes.extend_of_none hnone⟩

/-- **A run** that always delivers the oldest frame keeps the flood in order. -/
theorem InOrder.run (h : InOrder base message routes mesh)
    (hreaching : Reaching base message origin routes mesh) (hopen : base.OpenTo message)
    (hmessage : message.IsFloodable 1) (count : Nat) :
    ∃ routes', Reaching base message origin routes' (mesh.run (List.replicate count 0)) ∧
      InOrder base message routes' (mesh.run (List.replicate count 0)) ∧
      ∀ index route, routes index = some route → routes' index = some route := by
  induction count generalizing mesh routes with
  | zero => exact ⟨routes, hreaching, h, fun _ _ => id⟩
  | succ count ih =>
    obtain ⟨routes', hreached, hstep, hkept⟩ := h.step hreaching hopen hmessage
    obtain ⟨routes'', hreached', hrun, hkept'⟩ := ih hstep hreached
    exact ⟨routes'', hreached', hrun,
      fun index route hroute => hkept' index route (hkept index route hroute)⟩

/-- **Shortest ways.** When nothing is in flight any more, a flood that stayed in order has come to
every station within its limit, and on a shortest way. -/
theorem InOrder.exists_route_of_within (h : InOrder base message routes mesh)
    (horigin : routes origin = some [origin]) (hidle : mesh.inFlight = []) {hops index : Nat}
    (hwithin : base.Within origin hops index) (hindex : index < base.stations.length)
    (hlimit : hops < message.ttl.toNat) :
    ∃ route, routes index = some route ∧ route.length ≤ hops + 1 := by
  induction hops generalizing index with
  | zero =>
    obtain rfl : index = origin := hwithin
    exact ⟨[index], horigin, Nat.le_refl 1⟩
  | succ hops ih =>
    rcases hwithin with hwithin | ⟨before, hbefore, hwithin, hlinked⟩
    · obtain ⟨route, hroute, hlength⟩ := ih hwithin hindex (by omega)
      exact ⟨route, hroute, by omega⟩
    · obtain ⟨route, hroute, hlength⟩ := ih hwithin hbefore (by omega)
      rcases h.prompt before route hroute (by omega) index hindex hlinked with
        ⟨route', hroute', hlength'⟩ | ⟨flight, hflight, -⟩
      · exact ⟨route', hroute', by omega⟩
      · rw [hidle] at hflight
        cases hflight

end Mesh

end RadioGossip
