import HealthWatch.Proofs.Registry.Balance

/-! # Interleavings of calls

Each step of a thread preserves the balance of a custody (`Custody.Balanced.act`), and so does
every interleaving of steps (`Custody.Balanced.run`).
-/

namespace HealthWatch.Custody.Balanced

open CustodyEvent

variable {custody : Custody} {seen : List CustodyEvent}

section Enter

variable {registry : Registry} {container : String} {timer : Timer}
  (timers : registry.timers = custody.registry.timers ++ [(container, timer)])
  (absent : container ∉ custody.registry.containers)

include timers absent in
/-- The new timer is entered behind the others. -/
theorem entries_enter : (custody.enter registry container).entries =
    custody.entries ++ [⟨⟨custody.issued, container⟩, timer⟩] := by
  change registry.timers.map (fun entry => (⟨⟨Function.update custody.latest container
    custody.issued entry.1, entry.1⟩, entry.2⟩ : Charge)) = _
  rw [timers, List.map_append, List.map_singleton, Function.update_self]
  congr 1
  apply List.map_congr_left
  intro entry member
  rw [Function.update_of_ne]
  rintro rfl
  exact absent (List.mem_map_of_mem member)

include timers absent in
/-- The new registration is entered behind the others, with a number of its own. -/
theorem entered_enter : (custody.enter registry container).entered =
    custody.entered ++ [⟨custody.issued, container⟩] := by
  rw [entered, entries_enter timers absent, List.map_append]
  rfl

include timers absent in
/-- Entering a timer adds its registration to what is held. -/
theorem held_enter : (custody.enter registry container).held.Perm
    (⟨custody.issued, container⟩ :: custody.held) := by
  rw [held, held, entered_enter timers absent, List.append_assoc]
  exact List.perm_middle

/-- A successful registration adds one entry and one loop. -/
theorem enter (balanced : Balanced custody seen) {now : Int} {check : Healthcheck}
    {snapshot : Snapshot} (caller : Nat)
    (registered : custody.registry.register now container check = .ok (registry, snapshot)) :
    Balanced (custody.enter registry container)
      (seen ++ [.registered caller ⟨custody.issued, container⟩]) := by
  obtain ⟨opened, absent, free, timer, start, same, -⟩ := Registry.register_eq_ok registered
  obtain ⟨named, alive, -⟩ := Timer.start_eq_ok start
  have timers : registry.timers = custody.registry.timers ++ [(container, timer)] := by rw [same]
  have stopping : registry.stopping = custody.registry.stopping := by rw [same]
  have still : registry.closed = custody.registry.closed := by rw [same]
  have held := held_enter timers absent
  have other : ∀ registration ∈ custody.held, registration.container ≠ container :=
    fun _ member => balanced.container_ne_of_held opened absent free member
  have made : registeredIn (seen ++ [.registered caller ⟨custody.issued, container⟩]) =
      registeredIn seen ++ [⟨custody.issued, container⟩] := registeredIn_append _ _
  constructor
  case numbered =>
    rw [made, List.map_append, balanced.numbered]
    exact List.range_succ.symm
  case account =>
    have account := balanced.account
    have consumed : (custody.enter registry container).consumptions
        (seen ++ [.registered caller ⟨custody.issued, container⟩]) =
          custody.consumptions seen := by
      rw [consumptions, consumedIn_append]
      exact congrArg _ (List.append_nil _)
    rw [made, consumed, entered_enter timers absent, List.append_assoc]
    exact (List.perm_middle.trans (account.cons _)).trans (List.perm_append_singleton _ _).symm
  case part => exact balanced.part
  case distinct =>
    refine ((held.map _).nodup_iff).mpr (List.nodup_cons.mpr ⟨?_, balanced.distinct⟩)
    rintro member
    obtain ⟨registration, present, same⟩ := List.mem_map.mp member
    exact other registration present same
  case running =>
    intro loop member
    apply held.mem_iff.mpr
    rcases List.mem_cons.mp member with rfl | earlier
    · exact List.mem_cons_self
    · exact List.mem_cons_of_mem _ (balanced.running earlier)
  case single =>
    refine List.nodup_cons.mpr ⟨fun member => ?_, balanced.single⟩
    exact other _ (balanced.running member) rfl
  case reserved => exact stopping ▸ balanced.reserved
  case once => exact stopping ▸ balanced.once
  case apart =>
    intro known member reserved
    rw [Custody.enter, stopping] at reserved
    rw [Custody.enter, Registry.containers, timers, List.map_append] at member
    rcases List.mem_append.mp member with earlier | last
    · exact balanced.apart known earlier reserved
    · rw [List.mem_singleton.mp last] at reserved
      exact free reserved
  case closed =>
    intro closed
    rw [Custody.enter, still, opened] at closed
    cases closed
  case shut => exact still ▸ balanced.shut
  case callers => exact balanced.callers
  case named => exact balanced.named
  case answered =>
    intro caller container consumed member
    rcases List.mem_append.mp member with earlier | last
    · exact balanced.answered caller container consumed earlier
    · cases List.mem_singleton.mp last
  case tied =>
    intro charge member
    rw [mem_charges, entries_enter timers absent, List.mem_append, List.mem_singleton,
      or_assoc] at member
    have old : charge ∈ custody.charges → charge.timer.container = charge.registration.container ∧
        (charge.timer.loop.isSome = true →
          charge.registration ∈ (custody.enter registry container).loops) := by
      intro present
      obtain ⟨same, lively⟩ := balanced.tied charge present
      exact ⟨same, fun alive => List.mem_cons_of_mem _ (lively alive)⟩
    rcases member with earlier | rfl | inCall
    · exact old (custody.mem_charges.mpr (.inl earlier))
    · exact ⟨named, fun _ => List.mem_cons_self⟩
    · exact old (custody.mem_charges.mpr (.inr inCall))

end Enter

/-- A thread that is in no call can make one. -/
theorem nodup_callers_concat (balanced : Balanced custody seen) {removal : Removal}
    (idle : custody.busy removal.caller = false) :
    ((custody.removals ++ [removal]).map Removal.caller).Nodup := by
  rw [List.map_append, List.map_singleton, List.nodup_append_comm]
  refine List.nodup_cons.mpr ⟨fun member => ?_, balanced.callers⟩
  obtain ⟨other, present, same⟩ := List.mem_map.mp member
  rw [busy, List.any_eq_false] at idle
  exact idle other present (by simpa using same)

section Leave

variable {registry : Registry} {container : String} {timer : Timer}
  (taken : custody.registry.takeOut container = some (registry, timer)) (caller : Nat)

include taken in
/-- The entry of a container is what its registry loses. -/
theorem entries_leave (balanced : Balanced custody seen) :
    custody.entries.Perm
      (⟨⟨custody.latest container, container⟩, timer⟩ ::
        (custody.leave caller registry container timer).entries) := by
  obtain ⟨member, same⟩ := Registry.takeOut_eq_some taken
  have rest := perm_cons_filter_of_nodup Prod.fst member balanced.nodup_containers_registry
  subst same
  exact rest.map _

include taken in
theorem entered_leave (balanced : Balanced custody seen) :
    custody.entered.Perm
      (⟨custody.latest container, container⟩ ::
        (custody.leave caller registry container timer).entered) :=
  (balanced.entries_leave taken caller).map _

include taken in
/-- A timer that is taken out is not lost: the call has it. -/
theorem charges_leave (balanced : Balanced custody seen) :
    custody.charges.Perm (custody.leave caller registry container timer).charges := by
  have entries := balanced.entries_leave taken caller
  rw [charges, charges]
  refine (entries.append_right _).trans ?_
  rw [leave, List.flatMap_append, ← List.append_assoc]
  exact (List.perm_append_singleton _ _).symm

include taken in
/-- A call that takes out the timer of a container consumes its registration. -/
theorem leave (balanced : Balanced custody seen) (idle : custody.busy caller = false) :
    Balanced (custody.leave caller registry container timer) seen := by
  obtain ⟨member, same⟩ := Registry.takeOut_eq_some taken
  have charges := balanced.charges_leave taken caller
  have held := custody.held_perm charges
  have present : container ∈ custody.registry.containers := List.mem_map_of_mem member
  constructor
  case numbered => exact balanced.numbered
  case account =>
    have entered := balanced.entered_leave taken caller
    refine List.Perm.trans ?_ balanced.account
    refine List.Perm.trans ?_ (entered.append_right _).symm
    rw [consumptions, consumptions, Custody.leave, List.flatMap_append, List.append_assoc,
      List.map_append, List.map_append, List.map_append]
    simp only [← List.append_assoc]
    apply List.Perm.append_right
    exact List.perm_append_singleton _ _
  case part =>
    intro removal inCall
    rcases List.mem_append.mp inCall with earlier | last
    · exact balanced.part removal earlier
    · cases List.mem_singleton.mp last
      exact .refl _
  case distinct => exact ((held.map _).nodup_iff).mp balanced.distinct
  case running => exact fun loop runs => held.mem_iff.mp (balanced.running runs)
  case single => exact balanced.single
  case reserved =>
    rw [same, Custody.leave, List.filterMap_append]
    exact (balanced.reserved.cons container).trans (List.perm_append_singleton _ _).symm
  case once =>
    rw [same]
    exact List.nodup_cons.mpr ⟨balanced.apart container present, balanced.once⟩
  case apart =>
    rw [same]
    intro known entry reserved
    obtain ⟨left, kept, rfl⟩ := List.mem_map.mp entry
    obtain ⟨inside, differs⟩ := List.mem_filter.mp kept
    rcases List.mem_cons.mp reserved with rfl | earlier
    · simp at differs
    · exact balanced.apart left.1 (List.mem_map_of_mem inside) earlier
  case closed =>
    rw [same]
    intro closed
    rw [balanced.closed closed] at member
    cases member
  case shut =>
    rw [same]
    intro removal inCall shuts
    rcases List.mem_append.mp inCall with earlier | last
    · exact balanced.shut removal earlier shuts
    · cases List.mem_singleton.mp last
      cases shuts
  case callers => exact balanced.nodup_callers_concat idle
  case named =>
    intro removal inCall name unregisters
    rcases List.mem_append.mp inCall with earlier | last
    · exact balanced.named removal earlier name unregisters
    · cases List.mem_singleton.mp last
      cases unregisters
      exact ⟨_, rfl⟩
  case answered => exact balanced.answered
  case tied => exact fun charge inside => balanced.tied charge (charges.mem_iff.mpr inside)

end Leave

section Shutdown

variable {order : List Charge} (all : order.Perm custody.entries) (caller : Nat)

include all in
/-- A shutdown loses no timer: the call has all of them. -/
theorem charges_shutdown : custody.charges.Perm (custody.shutdown caller order).charges := by
  rw [charges, charges, Custody.shutdown, List.flatMap_append]
  exact List.perm_append_comm.trans
    ((all.symm.append_left _).trans (by simp [entries, Registry.close]))

include all in
/-- A call that closes the registry consumes the registrations of all that it takes out. -/
theorem shutdown (balanced : Balanced custody seen) (idle : custody.busy caller = false) :
    Balanced (custody.shutdown caller order) seen := by
  have charges := charges_shutdown all caller
  have held := custody.held_perm charges
  constructor
  case numbered => exact balanced.numbered
  case account =>
    refine List.Perm.trans ?_ balanced.account
    have taken : (order.map Charge.registration).Perm custody.entered := all.map _
    have last : ((⟨caller, order, none, order.map Charge.registration⟩ : Removal).consumptions.map
        Consumption.registration) = order.map Charge.registration := by
      rw [Removal.consumptions, List.map_map]
      exact List.map_id _
    have parts : ((custody.shutdown caller order).consumptions seen).map
        Consumption.registration =
          (custody.removals.flatMap Removal.consumptions).map Consumption.registration ++
            (order.map Charge.registration ++
              (consumedIn seen).map Consumption.registration) := by
      rw [consumptions, Custody.shutdown, List.flatMap_append, List.map_append, List.map_append,
        List.flatMap_singleton, last, List.append_assoc]
    rw [parts, consumptions, List.map_append]
    refine (List.Perm.append_left _ (taken.append_right _)).trans ?_
    exact List.perm_append_comm_assoc _ _ _
  case part =>
    intro removal inCall
    rcases List.mem_append.mp inCall with earlier | last
    · exact balanced.part removal earlier
    · cases List.mem_singleton.mp last
      exact .refl _
  case distinct => exact ((held.map _).nodup_iff).mp balanced.distinct
  case running => exact fun loop runs => held.mem_iff.mp (balanced.running runs)
  case single => exact balanced.single
  case reserved =>
    rw [Custody.shutdown, List.filterMap_append]
    exact balanced.reserved.trans (by simp)
  case once => exact balanced.once
  case apart => exact fun known entry => absurd entry List.not_mem_nil
  case closed => exact fun _ => rfl
  case shut => exact fun _ _ _ => rfl
  case callers => exact balanced.nodup_callers_concat idle
  case named =>
    intro removal inCall name unregisters
    rcases List.mem_append.mp inCall with earlier | last
    · exact balanced.named removal earlier name unregisters
    · cases List.mem_singleton.mp last
      cases unregisters
  case answered => exact balanced.answered
  case tied => exact fun charge inside => balanced.tied charge (charges.mem_iff.mpr inside)

end Shutdown

section Proceed

variable {registry : Registry} {step : Removal → Removal}

/-- Calls that only go on leave the balance. -/
theorem proceed (balanced : Balanced custody seen)
    (containers : registry.containers = custody.registry.containers)
    (stopping : registry.stopping = custody.registry.stopping)
    (still : registry.closed = custody.registry.closed)
    (entries : ∀ charge ∈ ({ custody with registry } : Custody).entries,
      ∃ earlier ∈ custody.entries, earlier.Continues charge)
    (proceeds : ∀ removal ∈ custody.removals, removal.Proceeds custody.loops (step removal)) :
    Balanced { custody with registry, removals := custody.removals.map step } seen := by
  let after : Custody := { custody with registry, removals := custody.removals.map step }
  have entered : after.entered = custody.entered := by
    rw [entered_eq, entered_eq, containers]
  have held : after.held.Sublist custody.held := by
    rw [Custody.held, Custody.held, entered, List.flatMap_map]
    exact (List.Sublist.refl _).append
      (List.Sublist.flatMap_right _ fun removal member => (proceeds removal member).held)
  have consumptions : after.consumptions seen = custody.consumptions seen := by
    rw [Custody.consumptions, Custody.consumptions, List.flatMap_map]
    congr 1
    apply List.flatMap_congr
    intro removal member
    have same := proceeds removal member
    rw [Removal.consumptions, Removal.consumptions, same.caller, same.container, same.consumed]
  constructor
  case numbered => exact balanced.numbered
  case account =>
    change (after.entered ++ (after.consumptions seen).map Consumption.registration).Perm _
    rw [entered, consumptions]
    exact balanced.account
  case part =>
    intro removal member
    obtain ⟨earlier, present, rfl⟩ := List.mem_map.mp member
    have same := proceeds earlier present
    rw [same.consumed]
    exact same.held.trans (balanced.part earlier present)
  case distinct => exact (held.map _).nodup balanced.distinct
  case running =>
    intro loop runs
    refine after.mem_held.mpr ?_
    rcases custody.mem_held.mp (balanced.running runs) with inside | ⟨removal, member, holds⟩
    · exact .inl (entered ▸ inside)
    · exact .inr ⟨step removal, List.mem_map_of_mem member,
        (proceeds removal member).kept loop runs holds⟩
  case single => exact balanced.single
  case reserved =>
    have names : (custody.removals.map step).filterMap Removal.container =
        custody.removals.filterMap Removal.container := by
      rw [List.filterMap_map]
      exact List.filterMap_congr fun removal member => (proceeds removal member).container
    rw [stopping, names]
    exact balanced.reserved
  case once => exact stopping ▸ balanced.once
  case apart => exact stopping ▸ containers ▸ balanced.apart
  case closed =>
    intro closed
    have none := balanced.closed (still ▸ closed)
    rw [Registry.containers, Registry.containers, none, List.map_nil] at containers
    exact List.map_eq_nil_iff.mp containers
  case shut =>
    intro removal member shuts
    obtain ⟨earlier, present, rfl⟩ := List.mem_map.mp member
    rw [(proceeds earlier present).container] at shuts
    exact still ▸ balanced.shut earlier present shuts
  case callers =>
    have names : (custody.removals.map step).map Removal.caller =
        custody.removals.map Removal.caller := by
      rw [List.map_map]
      exact List.map_congr_left fun removal member => (proceeds removal member).caller
    rw [names]
    exact balanced.callers
  case named =>
    intro removal member container unregisters
    obtain ⟨earlier, present, rfl⟩ := List.mem_map.mp member
    have same := proceeds earlier present
    rw [same.container] at unregisters
    rw [same.consumed]
    exact balanced.named earlier present container unregisters
  case answered => exact balanced.answered
  case tied =>
    intro charge member
    have origin : ∃ earlier ∈ custody.charges, earlier.Continues charge := by
      rcases after.mem_charges.mp member with inside | ⟨removal, inCall, holds⟩
      · obtain ⟨earlier, present, continues⟩ := entries charge inside
        exact ⟨earlier, custody.mem_charges.mpr (.inl present), continues⟩
      · obtain ⟨before, present, rfl⟩ := List.mem_map.mp inCall
        obtain ⟨earlier, held, continues⟩ := (proceeds before present).charges charge holds
        exact ⟨earlier, custody.mem_charges.mpr (.inr ⟨before, present, held⟩), continues⟩
    obtain ⟨earlier, present, continues⟩ := origin
    obtain ⟨same, lively⟩ := balanced.tied earlier present
    rw [continues.registration, continues.container]
    exact ⟨same, fun alive => lively (continues.loop alive)⟩

end Proceed

/-- A call of one thread goes on. -/
theorem advance (balanced : Balanced custody seen) (caller : Nat) {step : Removal → Removal}
    (proceeds : ∀ removal : Removal, removal.Proceeds custody.loops (step removal)) :
    Balanced (custody.advance caller step) seen := by
  refine balanced.proceed rfl rfl rfl (fun charge member => ⟨charge, member, .refl charge⟩) ?_
  intro removal member
  split
  · exact proceeds removal
  · exact .refl _ _

/-- The timer of a loop changes. -/
theorem adjust (balanced : Balanced custody seen) (loop : Registration) {change : Timer → Timer}
    (continues : ∀ charge : Charge, charge.Continues { charge with timer := change charge.timer }) :
    Balanced (custody.adjust loop change) seen := by
  refine balanced.proceed ?_ ?_ ?_ ?_ fun removal _ => removal.proceeds_adjust _ loop continues
  · split
    · exact custody.registry.containers_update loop.container change
    · rfl
  · split <;> rfl
  · split <;> rfl
  · intro charge member
    split at member
    · rename_i current
      obtain ⟨entry, inside, rfl⟩ := List.mem_map.mp member
      obtain ⟨earlier, present, rfl⟩ := List.mem_map.mp inside
      refine ⟨⟨⟨custody.latest earlier.1, earlier.1⟩, earlier.2⟩, List.mem_map_of_mem present, ?_⟩
      split
      · exact continues ⟨⟨custody.latest earlier.1, earlier.1⟩, earlier.2⟩
      · exact .refl _
    · exact ⟨charge, member, .refl charge⟩

/-- A loop has ended, and the timer that had it has no loop any more. -/
theorem withoutLoop (balanced : Balanced custody seen) (loop : Registration)
    (ended : ∀ charge ∈ custody.charges, charge.registration = loop →
      charge.timer.loop.isSome = false) :
    Balanced { custody with loops := custody.loops.filter (· ≠ loop) } seen where
  numbered := balanced.numbered
  account := balanced.account
  part := balanced.part
  distinct := balanced.distinct
  running := fun _ runs => balanced.running (List.mem_filter.mp runs).1
  single := balanced.single.filter _
  reserved := balanced.reserved
  once := balanced.once
  apart := balanced.apart
  closed := balanced.closed
  shut := balanced.shut
  callers := balanced.callers
  named := balanced.named
  answered := balanced.answered
  tied charge member := by
    obtain ⟨same, lively⟩ := balanced.tied charge member
    refine ⟨same, fun alive => List.mem_filter.mpr ⟨lively alive, ?_⟩⟩
    rw [decide_eq_true_eq]
    intro other
    rw [ended charge member other] at alive
    cases alive

/-- Once a loop has ended no timer has it. -/
theorem loop_of_exit (custody : Custody) {loop : Registration} {charge : Charge}
    (member : charge ∈ (custody.adjust loop Timer.exit).charges)
    (same : charge.registration = loop) : charge.timer.loop.isSome = false := by
  rcases (mem_charges _).mp member with inside | ⟨removal, inCall, holds⟩
  · obtain ⟨entry, present, rfl⟩ := List.mem_map.mp inside
    have own : (⟨custody.latest entry.1, entry.1⟩ : Registration) = loop := same
    subst own
    dsimp only [Custody.adjust] at present
    rw [if_pos rfl] at present
    obtain ⟨earlier, known, same⟩ := List.mem_map.mp present
    by_cases own : earlier.1 = entry.1
    · rw [if_pos own] at same
      rw [← same]
      rfl
    · rw [if_neg own] at same
      exact absurd (congrArg Prod.fst same) own
  · obtain ⟨before, known, rfl⟩ := List.mem_map.mp inCall
    obtain ⟨earlier, present, rfl⟩ := List.mem_map.mp holds
    by_cases own : earlier.registration = loop
    · rw [if_pos own]
      rfl
    · rw [if_neg own] at same
      exact absurd same own

/-- A loop ends. -/
theorem exit (balanced : Balanced custody seen) (loop : Registration) :
    Balanced
      { custody.adjust loop Timer.exit with loops := custody.loops.filter (· ≠ loop) } seen :=
  (balanced.adjust loop .exit).withoutLoop loop fun _ => loop_of_exit custody

section Finish

variable {removal : Removal} (member : removal ∈ custody.removals) (done : removal.charges = [])

include member in
/-- The call that returns is the only one of its thread. -/
theorem removals_finish (balanced : Balanced custody seen) :
    custody.removals.Perm (removal :: (custody.finish removal).removals) :=
  perm_cons_filter_of_nodup Removal.caller member balanced.callers

/-- A call that returns leaves the timers of the registry. -/
theorem timers_finish : (custody.finish removal).registry.timers = custody.registry.timers := by
  rw [Custody.finish]
  cases removal.container <;> rfl

/-- A call that returns neither opens nor closes the registry. -/
theorem closed_finish : (custody.finish removal).registry.closed = custody.registry.closed := by
  rw [Custody.finish]
  cases removal.container <;> rfl

/-- A call that returns reserves no identifier. -/
theorem stopping_finish :
    (custody.finish removal).registry.stopping.Sublist custody.registry.stopping := by
  rw [Custody.finish]
  cases removal.container with
  | none => exact .refl _
  | some container => exact List.filter_sublist

/-- A call that returns leaves what is entered. -/
theorem entries_finish : (custody.finish removal).entries = custody.entries := by
  rw [entries, timers_finish]
  rfl

include member in
/-- The identifiers that stay reserved are those of the calls that go on. -/
theorem reserved_finish (balanced : Balanced custody seen) :
    (custody.finish removal).registry.stopping.Perm
      ((custody.finish removal).removals.filterMap Removal.container) := by
  have names := balanced.reserved.trans
    ((balanced.removals_finish member).filterMap Removal.container)
  rw [List.filterMap_cons] at names
  cases unregisters : removal.container with
  | none =>
      rw [unregisters] at names
      rw [Custody.finish, unregisters] at names ⊢
      exact names
  | some container =>
      rw [unregisters] at names
      have others : container ∉ (custody.finish removal).removals.filterMap Removal.container :=
        (List.nodup_cons.mp (names.nodup balanced.once)).1
      have stopping : (custody.finish removal).registry.stopping =
          custody.registry.stopping.filter (· ≠ container) := by
        rw [Custody.finish, unregisters]
        rfl
      rw [stopping]
      refine (names.filter _).trans ?_
      rw [List.filter_cons_of_neg (by simp), List.filter_eq_self.mpr]
      intro name present
      rw [decide_eq_true_eq]
      exact fun same => others (same ▸ present)

include member done in
/-- A call that returns has no timers left. -/
theorem charges_finish (balanced : Balanced custody seen) :
    custody.charges.Perm (custody.finish removal).charges := by
  rw [Custody.charges, Custody.charges, entries_finish]
  refine (((balanced.removals_finish member).flatMap_right _).append_left _).trans ?_
  rw [List.flatMap_cons, done, List.nil_append]

include member done in
/-- A call that returns has consumed its registrations for good. -/
theorem finish (balanced : Balanced custody seen) :
    Balanced (custody.finish removal)
      (seen ++ [.returned removal.caller removal.container removal.consumed]) := by
  have removals := balanced.removals_finish member
  have kept : ∀ other ∈ (custody.finish removal).removals, other ∈ custody.removals :=
    fun other present => (List.mem_filter.mp present).1
  have charges := balanced.charges_finish member done
  have held := custody.held_perm charges
  have made : registeredIn (seen ++ [.returned removal.caller removal.container removal.consumed])
      = registeredIn seen := by
    rw [registeredIn_append]
    exact List.append_nil _
  constructor
  case numbered =>
    rw [made]
    exact balanced.numbered
  case account =>
    have consumptions : (custody.consumptions seen).Perm ((custody.finish removal).consumptions
        (seen ++ [.returned removal.caller removal.container removal.consumed])) := by
      rw [Custody.consumptions, Custody.consumptions, consumedIn_append]
      refine ((removals.flatMap_right _).append_right _).trans ?_
      rw [List.flatMap_cons, List.append_assoc, ← List.append_assoc (List.flatMap _ _)]
      refine List.perm_append_comm.trans ?_
      apply List.Perm.of_eq
      exact congrArg _ (List.append_nil _).symm
    rw [made]
    refine List.Perm.trans ?_ balanced.account
    rw [entered, entered, entries_finish]
    exact (consumptions.map _).symm.append_left _
  case part => exact fun other present => balanced.part other (kept other present)
  case distinct => exact (held.map _).nodup balanced.distinct
  case running => exact fun loop runs => held.mem_iff.mp (balanced.running runs)
  case single => exact balanced.single
  case reserved => exact balanced.reserved_finish member
  case once => exact stopping_finish.nodup balanced.once
  case apart =>
    intro container known reserved
    rw [Registry.containers, timers_finish] at known
    exact balanced.apart container known (stopping_finish.subset reserved)
  case closed =>
    rw [closed_finish, timers_finish]
    exact balanced.closed
  case shut =>
    rw [closed_finish]
    exact fun other present => balanced.shut other (kept other present)
  case callers => exact balanced.callers.sublist (List.filter_sublist.map _)
  case named => exact fun other present => balanced.named other (kept other present)
  case answered =>
    intro caller container consumed said
    rcases List.mem_append.mp said with earlier | last
    · exact balanced.answered caller container consumed earlier
    · rw [List.mem_singleton, CustodyEvent.returned.injEq] at last
      obtain ⟨-, unregisters, rfl⟩ := last
      exact balanced.named removal member container unregisters.symm
  case tied => exact fun charge inside => balanced.tied charge (charges.mem_iff.mpr inside)

end Finish

/-- Every step of a thread leaves the balance. -/
theorem act (balanced : Balanced custody seen) (action : CustodyAction) :
    Balanced (custody.act action).1 (seen ++ (custody.act action).2) := by
  have idle : Balanced custody (seen ++ []) := by
    rw [List.append_nil]
    exact balanced
  cases action with
  | register caller now container check =>
      rw [Custody.act]
      split
      · exact idle
      · rw [Custody.register]
        split
        · exact balanced.note rfl rfl fun _ _ _ same => by cases same
        · rename_i registered
          exact balanced.enter caller registered
  | unregister caller container =>
      rw [Custody.act]
      split
      · exact idle
      · rename_i free
        rw [Custody.unregister]
        split
        · exact balanced.note rfl rfl fun _ _ _ same => by cases same
        · rename_i taken
          rw [List.append_nil]
          exact balanced.leave taken caller (by simpa using free)
  | shutdown caller order =>
      rw [Custody.act]
      split
      · rename_i free
        rw [List.append_nil]
        exact balanced.shutdown free.2 caller (by simpa using free.1)
      · exact idle
  | cancel caller =>
      rw [Custody.act, List.append_nil]
      exact balanced.advance caller fun removal => removal.proceeds_cancel _
  | join caller =>
      rw [Custody.act, List.append_nil]
      exact balanced.advance caller fun removal => removal.proceeds_join _
  | finish caller =>
      rw [Custody.act]
      split
      · exact idle
      · rename_i removal found
        have done := List.find?_some found
        rw [Bool.and_eq_true, decide_eq_true_eq, List.isEmpty_iff] at done
        obtain ⟨rfl, done⟩ := done
        exact balanced.finish (List.mem_of_find?_eq_some found) done
  | callProbe loop =>
      rw [Custody.act]
      split
      · rw [List.append_nil]
        exact balanced.adjust loop .callProbe
      · exact idle
  | finishProbe loop now result =>
      rw [Custody.act]
      split
      · rw [List.append_nil]
        exact balanced.adjust loop fun charge => .finishProbe charge now result
      · exact idle
  | exit loop =>
      rw [Custody.act]
      split
      · rw [List.append_nil]
        exact balanced.exit loop
      · exact idle

/-- Every interleaving of steps leaves the balance. -/
theorem run (balanced : Balanced custody seen) (actions : List CustodyAction) :
    Balanced (custody.run actions).1 (seen ++ (custody.run actions).2) := by
  induction actions generalizing custody seen with
  | nil =>
      rw [Custody.run, List.append_nil]
      exact balanced
  | cons action rest ih =>
      rw [Custody.run, ← List.append_assoc]
      exact ih (balanced.act action)

end HealthWatch.Custody.Balanced
