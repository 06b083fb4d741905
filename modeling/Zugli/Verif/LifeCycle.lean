import Zugli.Firmware.Main
import Zugli.Verif.Faults
import Zugli.Verif.PowerLoss
import Zugli.Verif.Provisioning
import Zugli.Verif.Reset

/-!
# Where credentials come from

Credentials reach flash through the WiFi manager only, once it has joined their network. Nothing
that happens to a board after that, through failing flash calls, losses of power, resets and
restarts, turns them into others: the record holds them or holds none.
-/

namespace Zugli

open Serde
open Store (Call Cut)

/-! ## The credentials in the record -/

namespace Store

variable (serde : SerdeJsonCore)

/-- The credentials in the record. -/
def wifi (store : Store) : Option WifiCreds := (readAll serde store noFaults).wifi

/-- What a save may leave of the credentials: the ones before it, its own, or none. -/
def Call.MayLeave (saved : Call) (before after : Option WifiCreds) : Prop :=
  after = before ∨ after = none ∨ ∃ creds, saved = .saveWifi creds ∧ after = some creds

/-- What a record holds that a save wrote. -/
theorem Call.mayLeave_record (saved : Call) (all : Persisted) :
    saved.MayLeave all.wifi (saved.record all).wifi := by
  cases saved with
  | saveWifi creds => exact .inr (.inr ⟨creds, rfl, rfl⟩)
  | clearAll => exact .inr (.inl rfl)
  | saveSelection | saveConfig | saveLayout => exact .inl rfl

/-- A record read on failing flash holds the credentials or none. -/
theorem wifi_found (faults : Faults) (all : Persisted) :
    (found faults all).wifi = all.wifi ∨ (found faults all).wifi = none := by
  unfold found
  split
  · exact .inr rfl
  · exact .inl rfl

/-- A boot finds the credentials or none. -/
theorem wifi_loadBoot (store : Store) (faults : Faults) :
    (loadBoot serde store faults).wifi = store.wifi serde ∨
      (loadBoot serde store faults).wifi = none := by
  have read := readAll_eq_found serde faults (rfl : readAll serde store noFaults = _)
  show (readAll serde store faults).wifi = _ ∨ (readAll serde store faults).wifi = _
  rw [read]
  exact wifi_found faults _

/-- A save on failing flash leaves the credentials, its own or none. -/
theorem wifi_call (store : Store) (faults : Faults) (saved : Call) :
    saved.MayLeave (store.wifi serde) ((call serde store faults saved).1.wifi serde) := by
  have view : (call serde store faults saved).1.wifi serde =
      (loadBoot serde (call serde store faults saved).1 noFaults).wifi := rfl
  rw [view]
  rcases call_cases serde faults (rfl : readAll serde store noFaults = _) saved with
    ⟨-, boot⟩ | ⟨-, -, -, boot⟩ | ⟨-, -, -, boot⟩
  · rw [boot]
    exact .inl rfl
  · rw [boot]
    exact .inr (.inl rfl)
  · rw [boot]
    show saved.MayLeave _ (saved.record (found faults (readAll serde store noFaults))).wifi
    rcases saved.mayLeave_record (found faults (readAll serde store noFaults)) with
      same | none | own
    · rcases wifi_found faults (readAll serde store noFaults) with kept | lost
      · exact .inl (same.trans kept)
      · exact .inr (.inl (same.trans lost))
    · exact .inr (.inl none)
    · exact .inr (.inr own)

/-- So does a save the power fails during. -/
theorem wifi_callUntil (strict : serde.Strict Persisted) (store : Store) (cut : Cut)
    (saved : Call) :
    saved.MayLeave (store.wifi serde) ((callUntil serde store cut saved).wifi serde) := by
  rw [callUntil_eq]
  cases cut with
  | untouched => exact .inl rfl
  | torn landed =>
    cases room : fits serde (saved.record (readAll serde store noFaults)) with
    | false =>
      dsimp only
      rw [writeRecordUntil_overflow serde store landed (lt_len_of_not_fits serde room)]
      exact .inl rfl
    | true =>
      have read := readAll_writeRecordUntil serde strict store landed (len_le_of_fits serde room)
      dsimp only
      unfold wifi
      rw [read]
      split
      · exact saved.mayLeave_record _
      · exact .inr (.inl rfl)

/-- On working flash only the saves of credentials and the wipe change them. -/
theorem wifi_step {saved : Call} (store : Store) (other : ∀ creds, saved ≠ .saveWifi creds)
    (keeps : saved ≠ .clearAll) : (step serde store saved).1.wifi serde = store.wifi serde := by
  rcases step_cases serde store saved with ⟨-, after, wrote, read⟩ | ⟨-, refused⟩
  · unfold wifi
    rw [wrote, read]
    cases saved with
    | saveWifi creds => exact absurd rfl (other creds)
    | clearAll => exact absurd rfl keeps
    | saveSelection | saveConfig | saveLayout => rfl
  · rw [refused]

end Store

/-- The credentials in flash, if the store was found. -/
def Device.wifi (serde : SerdeJsonCore) (device : Device) : Option WifiCreds :=
  device.store.bind (Store.wifi serde)

/-- A save of the board leaves the credentials, its own or none. -/
theorem Device.wifi_persist (serde : SerdeJsonCore) (device : Device) (faults : Faults)
    (saved : Call) :
    saved.MayLeave (device.wifi serde)
      ((device.persist fun store => Store.call serde store faults saved).1.wifi serde) := by
  obtain ⟨store, shared, used⟩ := device
  cases store with
  | none => exact .inl rfl
  | some store => exact Store.wifi_call serde store faults saved

namespace Provisioning

variable {Method : Type} {serde : SerdeJsonCore} {wpa2Personal : Method}

/-- A step of the portal leaves the store alone, wipes it or saves what the manager has joined. -/
theorem step_store (serde : SerdeJsonCore) (wpa2Personal : Method) (p : Provisioning Method)
    (event : Event Method) : (p.step serde wpa2Personal event).1.device.store = p.device.store ∨
      ∃ faults saved, saved ∈ p.manager.pending ++ p.button.pending ∧
        (p.step serde wpa2Personal event).1.device =
          (p.device.persist fun store => Store.call serde store faults saved).1 := by
  unfold step
  split
  case isTrue => exact .inl rfl
  case isFalse =>
    cases event with
    | passes | connects | lists | joins | sampled | resets => exact .inl rfl
    | scanned found =>
      simp only [stepRunning, scanned]
      split <;> exact .inl rfl
    | selects =>
      simp only [stepRunning, selects]
      split
      · exact .inl rfl
      · split <;> exact .inl rfl
      · exact .inl rfl
    | wakes =>
      simp only [stepRunning, wakes]
      split
      · split <;> exact .inl rfl
      · split
        · split <;> exact .inl rfl
        · exact .inl rfl
      · split <;> exact .inl rfl
      · exact .inl rfl
    | saves faults =>
      simp only [stepRunning, saves]
      split
      case h_1 creds saving =>
        refine .inr ⟨faults, .saveWifi creds, List.mem_append_left _ ?_, rfl⟩
        rw [saving]
        exact List.mem_singleton_self _
      case h_2 => exact .inl rfl
    | wipes faults =>
      simp only [stepRunning, wipes]
      split
      case isTrue wiping =>
        refine .inr ⟨faults, .clearAll, List.mem_append_right _ ?_, rfl⟩
        rw [wiping]
        exact List.mem_singleton_self _
      case isFalse => exact .inl rfl

/-- Credentials the manager comes to save have joined in that step. -/
theorem saving_joined {p : Provisioning Method} {event : Event Method} {creds : WifiCreds}
    (saving : (p.step serde wpa2Personal event).1.manager = .saving creds) :
    p.manager = .saving creds ∨ creds ∈ joined (p.sights serde wpa2Personal event) := by
  have move := p.moves serde wpa2Personal event
  generalize (p.step serde wpa2Personal event).1 = next at move saving
  generalize p.sights serde wpa2Personal event = seen at move ⊢
  cases move with
  | still spares => exact .inl (spares.manager.symm.trans saving)
  | posts => exact .inl saving
  | succeeds other =>
    obtain rfl : other = creds := Manager.saving.inj saving
    exact .inr (List.mem_singleton_self other)
  | _ => cases saving

end Provisioning

namespace Tasks

variable {serde : SerdeJsonCore} {sorting : UnstableSort}

/-- Every request being handled has a route of the server. -/
def Served (tasks : Tasks) : Prop := ∀ handler ∈ tasks.handlers, handler.request.served = true

/-- The routes of a connected board save no credentials. -/
theorem served_call {request : Saving} (served : request.served = true) :
    (∀ creds, request.call ≠ .saveWifi creds) ∧ request.call ≠ .clearAll := by
  cases request with
  | save | setConfig | setLayout => exact ⟨fun _ => Call.noConfusion, Call.noConfusion⟩
  | saveWifi => exact Bool.noConfusion served

/-- A step of a task other than the handlers and the button leaves the handlers and the store
alone. -/
structure Aside (tasks after : Tasks) : Prop where
  /-- The handlers. -/
  handlers : after.handlers = tasks.handlers
  /-- The store. -/
  store : after.device.store = tasks.device.store

/-- What a step can do to the handlers and the store. -/
inductive ServerMove (serde : SerdeJsonCore) (tasks : Tasks) : Event → Tasks → Prop where
  /-- Another task goes on. -/
  | aside {event : Event} {after : Tasks} (kept : tasks.Aside after) :
    ServerMove serde tasks event after
  /-- A request arrives. -/
  | accepts (request : Saving) :
    ServerMove serde tasks (.accept request)
      { tasks with handlers := tasks.handlers ++ [⟨request, false⟩] }
  /-- A handler persists. -/
  | persists (index : Nat) (faults : Faults) (handler : Handler)
    (found : tasks.handlers[index]? = some handler) (fresh : handler.persisted = false) :
    ServerMove serde tasks (.handle index faults)
      { tasks with
        device := (tasks.device.persist fun store =>
          Store.call serde store faults handler.request.call).1
        handlers := tasks.handlers.set index ⟨handler.request, true⟩ }
  /-- A handler answers. -/
  | answers (index : Nat) (faults : Faults) (handler : Handler) :
    ServerMove serde tasks (.handle index faults)
      { tasks with
        device := { tasks.device with shared := handler.request.apply tasks.device.shared }
        handlers := tasks.handlers.eraseIdx index }
  /-- The button wipes the store. -/
  | wipes (now : Nat) (faults : Faults) (wiping : tasks.button = .wiping) :
    ServerMove serde tasks (.wipes now faults)
      { tasks with
        device := (tasks.device.persist fun store => Store.call serde store faults .clearAll).1
        button := .wiped now }

/-- Every step is one of these. -/
theorem step_server (tasks : Tasks) (event : Event) :
    ServerMove serde tasks event (tasks.step serde sorting event).1 := by
  have same : tasks.Aside tasks := ⟨rfl, rfl⟩
  unfold step
  split
  case isTrue => exact .aside same
  case isFalse =>
    cases event with
    | accept request => exact .accepts request
    | handle index faults =>
      simp only [stepRunning, handleOne]
      split
      case h_1 => exact .aside same
      case h_2 handler found =>
        split
        case isTrue => exact .answers index faults handler
        case isFalse fresh =>
          exact .persists index faults handler found (Bool.eq_false_iff.mpr fresh)
    | wipes now faults =>
      simp only [stepRunning, wipes]
      split
      case isTrue wiping => exact .wipes now faults wiping
      case isFalse => exact .aside same
    | synced now unix =>
      cases unix with
      | none => exact .aside same
      | some unix =>
        show ServerMove serde tasks _ (tasks.synced now unix)
        refine .aside ?_
        unfold synced
        split <;> exact ⟨rfl, rfl⟩
    | sampled | resets => exact .aside ⟨rfl, rfl⟩
    | configured octets =>
      refine .aside ?_
      simp only [stepRunning, configured]
      split
      · split <;> exact ⟨rfl, rfl⟩
      · exact same
    | addressChecked =>
      refine .aside ?_
      simp only [stepRunning, addressChecked]
      split <;> exact ⟨rfl, rfl⟩
    | networkUp =>
      refine .aside ?_
      simp only [stepRunning, networkUp]
      split <;> exact ⟨rfl, rfl⟩
    | polls now =>
      refine .aside ?_
      simp only [stepRunning, polls]
      split <;> exact ⟨rfl, rfl⟩
    | fetched now attempt =>
      refine .aside ?_
      simp only [stepRunning, fetched]
      split <;> exact ⟨rfl, rfl⟩
    | timer now =>
      refine .aside ?_
      simp only [stepRunning, timer]
      split
      · split <;> exact ⟨rfl, rfl⟩
      · exact same
    | woken =>
      refine .aside ?_
      simp only [stepRunning, woken]
      split
      · split <;> exact ⟨rfl, rfl⟩
      · exact same

/-- Whether the event is the wipe of the button. -/
def Event.isWipe : Event → Bool
  | .wipes .. => true
  | _ => false

variable {tasks after : Tasks} {event : Event}

/-- The handlers serve routes of the server only. -/
theorem ServerMove.served (move : ServerMove serde tasks event after)
    (route : event.served = true) (before : tasks.Served) : after.Served := by
  cases move with
  | aside kept =>
    intro handler member
    exact before handler (kept.handlers ▸ member)
  | accepts request =>
    intro handler member
    rcases List.mem_append.mp member with old | new
    · exact before handler old
    · obtain rfl := List.mem_singleton.mp new
      exact route
  | persists index faults handler found fresh =>
    intro other member
    rcases List.mem_or_eq_of_mem_set member with old | rfl
    · exact before other old
    · exact before handler (List.mem_of_getElem? found)
  | answers index faults handler =>
    exact fun other member => before other (List.mem_of_mem_eraseIdx member)
  | wipes => exact before

/-- The saves of a connected board are pending before they run. -/
theorem ServerMove.store (move : ServerMove serde tasks event after) :
    after.device.store = tasks.device.store ∨
      ∃ saved ∈ tasks.handlers.flatMap Handler.pending ++ tasks.button.pending,
        after.device = (tasks.device.persist fun store =>
          Store.call serde store event.faults saved).1 := by
  cases move with
  | aside kept => exact .inl kept.store
  | accepts | answers => exact .inl rfl
  | persists index faults handler found fresh =>
    refine .inr ⟨handler.request.call, List.mem_append_left _ (List.mem_flatMap.mpr
      ⟨handler, List.mem_of_getElem? found, ?_⟩), rfl⟩
    rw [Handler.pending, fresh]
    exact List.mem_singleton_self _
  | wipes now faults wiping =>
    refine .inr ⟨.clearAll, List.mem_append_right _ ?_, rfl⟩
    rw [wiping]
    exact List.mem_singleton_self _

/-- On working flash a connected board that is not wiped keeps its credentials. -/
theorem ServerMove.wifi (move : ServerMove serde tasks event after)
    (working : event.faults = noFaults) (keeps : event.isWipe = false) (served : tasks.Served) :
    after.device.wifi serde = tasks.device.wifi serde := by
  cases move with
  | aside kept => exact congrArg (Option.bind · (Store.wifi serde)) kept.store
  | accepts | answers => rfl
  | persists index faults handler found fresh =>
    have route := served handler (List.mem_of_getElem? found)
    obtain rfl : faults = noFaults := working
    obtain ⟨device, _, _, _, _, _, _⟩ := tasks
    obtain ⟨store, _, _⟩ := device
    cases store with
    | none => rfl
    | some store =>
      exact store.wifi_step serde (served_call route).1 (served_call route).2
  | wipes => cases keeps

end Tasks

namespace Running

variable {Method : Type} {serde : SerdeJsonCore} {sorting : UnstableSort} {wpa2Personal : Method}
  {running : Running Method} {joins : List WifiCreds}

/-- The credentials that join in a step. -/
def joinsNow (serde : SerdeJsonCore) (wpa2Personal : Method) :
    Running Method → Event Method → List WifiCreds
  | .provisioning portal, .provisioning event =>
    Provisioning.joined (portal.sights serde wpa2Personal event)
  | _, _ => []

/-- The tasks that run have only to do with credentials that have joined. -/
def Vouched (wpa2Personal : Method) (joins : List WifiCreds) : Running Method → Prop
  | .provisioning portal => ∀ creds, portal.manager = .saving creds → creds ∈ joins
  | .connected creds radio tasks =>
    creds ∈ joins ∧ radio = applySta wpa2Personal creds ∧ tasks.Served

/-- So have the tasks and the flash. -/
structure Honest (serde : SerdeJsonCore) (wpa2Personal : Method) (running : Running Method)
    (joins : List WifiCreds) : Prop where
  /-- What is in flash. -/
  stored : ∀ creds ∈ running.device.wifi serde, creds ∈ joins
  /-- What the tasks are about. -/
  vouched : running.Vouched wpa2Personal joins

/-- More credentials may join. -/
theorem Vouched.mono (vouched : running.Vouched wpa2Personal joins) (more : List WifiCreds) :
    running.Vouched wpa2Personal (joins ++ more) := by
  cases running with
  | provisioning portal =>
    exact fun creds saving => List.mem_append_left _ (vouched creds saving)
  | connected creds radio tasks => exact ⟨List.mem_append_left _ vouched.1, vouched.2⟩

/-- A board comes up with credentials that have joined, or in the portal. -/
theorem boot_honest (store : Option Store) (faults : Faults)
    (stored : ∀ creds ∈ store.bind (Store.wifi serde), creds ∈ joins) :
    (boot serde wpa2Personal store faults).1.Honest serde wpa2Personal joins := by
  unfold boot
  dsimp only
  split
  case h_1 => exact ⟨stored, fun creds saving => Manager.noConfusion saving⟩
  case h_2 creds loaded =>
    refine ⟨stored, ⟨?_, rfl, fun handler member => absurd member List.not_mem_nil⟩⟩
    cases store with
    | none => cases loaded
    | some store =>
      rcases store.wifi_loadBoot serde faults with same | lost
      · exact stored creds (same.symm.trans loaded)
      · cases lost.symm.trans loaded

/-- Credentials about to be saved have joined. -/
theorem Honest.pending (honest : running.Honest serde wpa2Personal joins) {creds : WifiCreds}
    (saving : .saveWifi creds ∈ running.pending) : creds ∈ joins := by
  obtain ⟨-, vouched⟩ := honest
  cases running with
  | provisioning portal =>
    rcases List.mem_append.mp saving with manager | button
    · cases point : portal.manager with
      | saving other =>
        rw [point] at manager
        obtain rfl := Call.saveWifi.inj (List.mem_singleton.mp manager)
        exact vouched creds point
      | _ =>
        rw [point] at manager
        cases manager
    · cases point : portal.button with
      | wiping =>
        rw [point] at button
        cases List.mem_singleton.mp button
      | _ =>
        rw [point] at button
        cases button
  | connected other radio tasks =>
    rcases List.mem_append.mp saving with handlers | button
    · obtain ⟨handler, member, found⟩ := List.mem_flatMap.mp handlers
      have served := vouched.2.2 handler member
      unfold Handler.pending at found
      split at found
      · cases found
      · exact absurd (List.mem_singleton.mp found).symm ((Tasks.served_call served).1 creds)
    · cases point : tasks.button with
      | wiping =>
        rw [point] at button
        cases List.mem_singleton.mp button
      | _ =>
        rw [point] at button
        cases button

/-- What a pending save may leave has joined. -/
theorem Honest.mayLeave (honest : running.Honest serde wpa2Personal joins) {saved : Call}
    (pending : saved ∈ running.pending) {left : Option WifiCreds}
    (leaves : saved.MayLeave (running.device.wifi serde) left) : ∀ creds ∈ left, creds ∈ joins := by
  intro creds there
  rcases leaves with same | none | ⟨own, rfl, left⟩
  · exact honest.stored creds (same ▸ there)
  · rw [none] at there
    cases there
  · rw [left] at there
    obtain rfl := Option.some.inj there
    exact honest.pending pending

/-- What a loss of power leaves in flash has joined. -/
theorem Honest.storeAfter (strict : serde.Strict Persisted)
    (honest : running.Honest serde wpa2Personal joins) (during : Option (Nat × Cut)) :
    ∀ creds ∈ (running.storeAfter serde during).bind (Store.wifi serde), creds ∈ joins := by
  unfold Running.storeAfter
  split
  case h_1 => exact honest.stored
  case h_2 index cut =>
    split
    case h_1 => exact honest.stored
    case h_2 saved found =>
      refine honest.mayLeave (List.mem_of_getElem? found) ?_
      unfold Device.wifi
      cases running.device.store with
      | none => exact .inl rfl
      | some store => exact store.wifi_callUntil serde strict cut saved

variable (sorting) in
/-- Every step keeps flash and tasks to credentials that have joined. -/
theorem step_honest (strict : serde.Strict Persisted) (event : Event Method)
    (honest : running.Honest serde wpa2Personal joins) :
    (running.step serde sorting wpa2Personal event).1.Honest serde wpa2Personal
      (joins ++ joinsNow serde wpa2Personal running event) := by
  have kept : running.Honest serde wpa2Personal (joins ++ []) := by
    rw [List.append_nil]
    exact honest
  cases event with
  | provisioning event =>
    cases running with
    | connected => exact kept
    | provisioning portal =>
      constructor
      · intro creds there
        refine List.mem_append_left _ ?_
        rcases portal.step_store serde wpa2Personal event with
          same | ⟨faults, saved, pending, device⟩
        · refine honest.stored creds ?_
          exact (congrArg (Option.bind · (Store.wifi serde)) same).symm.trans there
        · have leaves := portal.device.wifi_persist serde faults saved
          rw [← device] at leaves
          exact honest.mayLeave pending leaves creds there
      · intro creds saving
        rcases Provisioning.saving_joined saving with already | joined
        · exact List.mem_append_left _ (honest.vouched creds already)
        · exact List.mem_append_right _ joined
  | connected event =>
    cases running with
    | provisioning => exact kept
    | connected creds radio tasks =>
      simp only [step, joinsNow, List.append_nil]
      split
      case isFalse => exact honest
      case isTrue route =>
        have move : Tasks.ServerMove serde tasks event (tasks.step serde sorting event).1 :=
          tasks.step_server event
        obtain ⟨joined, radio, served⟩ := honest.vouched
        refine ⟨fun other there => ?_, joined, radio, move.served route served⟩
        rcases move.store with same | ⟨saved, pending, device⟩
        · refine honest.stored other ?_
          exact (congrArg (Option.bind · (Store.wifi serde)) same).symm.trans there
        · have leaves := tasks.device.wifi_persist serde event.faults saved
          rw [← device] at leaves
          exact honest.mayLeave pending leaves other there
  | restarts faults =>
    have after : joinsNow serde wpa2Personal running (.restarts faults) = [] := by
      cases running <;> rfl
    rw [after, List.append_nil, step]
    split
    · exact boot_honest running.device.store faults honest.stored
    · exact honest
  | powerFails during faults =>
    have after : joinsNow serde wpa2Personal running (.powerFails during faults) = [] := by
      cases running <;> rfl
    rw [after, List.append_nil, step]
    exact boot_honest _ faults (honest.storeAfter strict during)

/-! ## A connected board -/

/-- Nothing goes wrong in the event, and nobody wipes the board. -/
def Event.Gentle : Event Method → Prop
  | .provisioning _ => True
  | .connected event => event.faults = noFaults ∧ event.isWipe = false
  | .restarts faults => faults = noFaults
  | .powerFails during faults => during = none ∧ faults = noFaults

/-- A board connected with credentials that are in flash. -/
def Settled (serde : SerdeJsonCore) (wpa2Personal : Method) (creds : WifiCreds)
    (running : Running Method) : Prop :=
  running.device.wifi serde = some creds ∧ ∃ tasks : Tasks,
    running = .connected creds (applySta wpa2Personal creds) tasks ∧ tasks.Served

/-- A store with credentials comes up connected with them. -/
theorem boot_settled {store : Option Store} {creds : WifiCreds}
    (stored : store.bind (Store.wifi serde) = some creds) :
    (boot serde wpa2Personal store noFaults).1.Settled serde wpa2Personal creds := by
  have loaded : ((store.map fun store => store.loadBoot serde noFaults).getD
      Persisted.default).wifi = some creds := by
    cases store with
    | none => cases stored
    | some store => exact stored
  unfold boot
  dsimp only
  split
  case h_1 none => cases none.symm.trans loaded
  case h_2 other found =>
    obtain rfl := Option.some.inj (found.symm.trans loaded)
    exact ⟨stored, _, rfl, fun handler member => absurd member List.not_mem_nil⟩

/-- A connected board stays connected with its credentials. -/
theorem step_settled {creds : WifiCreds} (event : Event Method) (gentle : event.Gentle)
    (settled : running.Settled serde wpa2Personal creds) :
    (running.step serde sorting wpa2Personal event).1.Settled serde wpa2Personal creds := by
  obtain ⟨stored, tasks, rfl, served⟩ := settled
  cases event with
  | provisioning event => exact ⟨stored, tasks, rfl, served⟩
  | connected event =>
    obtain ⟨working, keeps⟩ := gentle
    simp only [step]
    split
    case isFalse => exact ⟨stored, tasks, rfl, served⟩
    case isTrue route =>
      have move : Tasks.ServerMove serde tasks event (tasks.step serde sorting event).1 :=
        tasks.step_server event
      exact ⟨(move.wifi working keeps served).trans stored, _, rfl, move.served route served⟩
  | restarts faults =>
    rw [step]
    split
    · obtain rfl : faults = noFaults := gentle
      exact boot_settled stored
    · exact ⟨stored, tasks, rfl, served⟩
  | powerFails during faults =>
    obtain ⟨rfl, rfl⟩ := gentle
    exact boot_settled stored

section Boots

variable {serde : SerdeJsonCore} {Method : Type} {store : Store} {slots : Persisted}
  (related : Store.Refines serde store slots)

include related

/-- A board without credentials in flash comes up in the portal. -/
theorem boot_without (empty : slots.wifi = none) (wpa2Personal : Method) :
    ∃ shared, (boot serde wpa2Personal (some store) noFaults).1 =
      .provisioning (.start ⟨some store, shared, false⟩) := by
  have found : ((Option.map (fun store => Store.loadBoot serde store noFaults)
      (some store)).getD Persisted.default).wifi = none :=
    (congrArg Persisted.wifi (Store.loadBoot_of_refines related)).trans empty
  simp only [boot, found]
  exact ⟨_, rfl⟩

/-- A board with credentials in flash comes up connected. -/
theorem boot_with {creds : WifiCreds} (saved : slots.wifi = some creds) (wpa2Personal : Method) :
    ∃ tasks, (boot serde wpa2Personal (some store) noFaults).1 =
        .connected creds (applySta wpa2Personal creds) tasks ∧ tasks.device.store = some store := by
  have found : ((Option.map (fun store => Store.loadBoot serde store noFaults)
      (some store)).getD Persisted.default).wifi = some creds :=
    (congrArg Persisted.wifi (Store.loadBoot_of_refines related)).trans saved
  simp only [boot, found]
  exact ⟨_, rfl, rfl⟩

end Boots

/-- A board that has reset itself comes up from its store. -/
theorem restarts_of_reset (serde : SerdeJsonCore) (sorting : UnstableSort) {Method : Type}
    (wpa2Personal : Method) {running : Running Method} (reset : running.isReset = true)
    (faults : Faults) : (running.step serde sorting wpa2Personal (.restarts faults)).1 =
      (boot serde wpa2Personal running.device.store faults).1 := by
  rw [step, if_pos reset]

/-- A phone posts credentials, they join, and the board resets itself. -/
def joinsOnce : List (Event Unit) :=
  [.provisioning (.scanned []), .provisioning (.connects Store.longCreds), .provisioning .selects,
    .provisioning (.passes flushDelay), .provisioning .wakes, .provisioning (.joins true),
    .provisioning (.saves noFaults), .provisioning (.passes savedDelay), .provisioning .wakes]

/-- The portal has then saved the credentials. -/
theorem joinsOnce_saves (store : Store) (shared : Shared) :
    ∃ portal : Provisioning Unit,
      (Machine.run (step .reference .reference ())
        (.provisioning (.start ⟨some store, shared, false⟩)) joinsOnce).1 = .provisioning portal ∧ portal.isReset = true ∧
      portal.device.store =
        some (Store.step .reference store (.saveWifi Store.longCreds)).1 := by
  simp [joinsOnce, step, Provisioning.step, Provisioning.stepRunning, Provisioning.start,
    Provisioning.scanned, Provisioning.advertise, Provisioning.configure, Provisioning.selects,
    Provisioning.wakes, Provisioning.joins, Provisioning.saves, Provisioning.isReset,
    Device.persist, Store.step]

/-- A board without credentials that has joined once is connected after its restart, with its
credentials in flash. -/
theorem joinsOnce_connected :
    let first := (boot .reference () (some Store.blank) noFaults).1
    ∃ tasks, (Machine.run (step .reference .reference ()) first
        (joinsOnce ++ [.restarts noFaults])).1 =
          .connected Store.longCreds (applySta () Store.longCreds) tasks ∧
      tasks.device.wifi .reference = some Store.longCreds := by
  intro first
  obtain ⟨shared, portal⟩ := boot_without (@Store.refines_blank .reference) rfl ()
  have saved := (Store.step_refines (@Store.refines_blank .reference)
    (.saveWifi Store.longCreds)).1
  have room : (Slots.step (Store.fits .reference) Persisted.default
      (.saveWifi Store.longCreds)).1.wifi = some Store.longCreds := by decide +kernel
  obtain ⟨last, run, isReset, store⟩ := joinsOnce_saves Store.blank shared
  have resetNow : (Running.provisioning last).isReset = true := isReset
  obtain ⟨tasks, connected, held⟩ := boot_with saved room ()
  refine ⟨tasks, ?_, ?_⟩
  · have ran : (Machine.run (step .reference .reference ()) first
        (joinsOnce ++ [.restarts noFaults])).1 =
          (Machine.run (step .reference .reference ()) (.provisioning last)
            [.restarts noFaults]).1 := by
      rw [Machine.run_append_state, show first = _ from portal, run]
    have rebooted : (Machine.run (step .reference .reference ()) (.provisioning last)
        [.restarts noFaults]).1 = (boot .reference () last.device.store noFaults).1 :=
      restarts_of_reset .reference .reference () resetNow noFaults
    rw [ran, rebooted, store]
    exact connected
  · rw [Device.wifi, held, Option.bind_some, Store.wifi, saved.1]
    exact room

end Running

end Zugli
