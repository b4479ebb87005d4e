/-
# Runs of a farm with its hubs

Requests that create, suspend and delete hubs run side by side.  Hub processes bind their
ports and come to an end when they do, and the farm can be restarted: what it had in
memory is gone then, the hub processes are not, and before it listens again it spawns the
hubs that its store says have a port.
-/

import Voxply.Farm.Hubs
import Voxply.Farm.SessionRevocation

namespace Voxply.Farm

open Voxply.Math Voxply.Identity
open Voxply.Hub (SqlError StatusCode)

/-! ## Requests -/

inductive HubRequest where
  | startup (pids : String → Option ℕ)
  | tick (seconds : ℕ)
  | listens (pid : ℕ)
  | exits (pid : ℕ)
  | createHub (env : CreateHubEnv) (bearer : Bearer) (req : CreateHubRequest)
  | suspendHub (bearer : Bearer) (hubId : String) (reason : Option String)
  | deleteHub (kills : Bool) (bearer : Bearer) (hubId : String)

/-- A hub process binds its port, if nobody else listens on it. -/
def bindPort (pid : ℕ) (s : FarmState) : FarmState :=
  { s with
    children := s.children.map fun child =>
      let port := (hubHttpPort child.environment).filter fun port =>
        s.children.all (·.port ≠ some port)
      if child.pid = pid then { child with port := child.port.or port } else child }

def endProcess (pid : ℕ) (s : FarmState) : FarmState :=
  { s with children := s.children.filter (·.pid ≠ pid) }

def HubRequest.handler (farm : FarmConfig) : HubRequest → Handler Unit
  | .startup pids => spawnAllFromDb farm pids
  | .tick seconds => .exec (advance seconds)
  | .listens pid => .exec (bindPort pid)
  | .exits pid => .exec (endProcess pid)
  | .createHub env bearer req => do
      let _ ← Farm.createHub farm env bearer req
      pure ()
  | .suspendHub bearer hubId reason => do
      let _ ← Farm.suspendHub farm bearer hubId reason
      pure ()
  | .deleteHub kills bearer hubId => Farm.deleteHub farm kills bearer hubId

abbrev FarmServer := Server HubRequest FarmState ApiError Unit

/-- The farm is started: its first job is to spawn the hubs. -/
def boot (farm : FarmConfig) (pids : String → Option ℕ) (s : FarmState) : FarmServer :=
  Server.step (HubRequest.handler farm) (.start (.startup pids)) (.idle { s with running := ∅ })

/-- What may begin: requests come in once the hubs have been spawned, the rest happens
by itself. -/
def HubRequest.mayStart (started : Bool) : HubRequest → Bool
  | .startup _ => false
  | .tick _ => true
  | .listens _ => true
  | .exits _ => true
  | .createHub _ _ _ => started
  | .suspendHub _ _ _ => started
  | .deleteHub _ _ _ => started

inductive FarmMove where
  | restart (pids : String → Option ℕ)
  | start (request : HubRequest)
  | exec (job : ℕ)

/-- One move. A restart drops what was being done. -/
def farmStep (farm : FarmConfig) : FarmMove → FarmServer → FarmServer
  | .restart pids, server => boot farm pids server.state
  | .start request, server =>
      if request.mayStart (server.answer? 0).isSome then
        Server.step (HubRequest.handler farm) (.start request) server
      else server
  | .exec job, server => Server.step (HubRequest.handler farm) (.exec job) server

/-- The farm after some moves. -/
def farmRun (farm : FarmConfig) (moves : List FarmMove) (server : FarmServer) : FarmServer :=
  runAll (farmStep farm) moves server

/-! ## What a request is about to write -/

/-- The row that the next statement inserts. -/
def inserts? (farm : FarmConfig) : HubRequest → List (Sent FarmState) → Option HubRow
  | .createHub env bearer req, past => (prepareHub farm env bearer req).returned? past
  | _, _ => none

/-- The hub that the next statement gives a port, and the port. -/
def assigns? (farm : FarmConfig) : HubRequest → List (Sent FarmState) → Option (String × UInt16)
  | .createHub env bearer req, past =>
      ((placeHub farm env bearer req).returned? past).map fun placed => (placed.1.id, placed.2)
  | _, _ => none

/-- The request whose turn it is and what it has sent. -/
def turn? (server : FarmServer) : FarmMove → Option (HubRequest × List (Sent FarmState))
  | .exec job =>
      match server.jobs[job]? with
      | some (request, .step _ _) => some (request, sentBy job server.history)
      | _ => none
  | _ => none

/-- What the requests send. -/
inductive HubSent (farm : FarmConfig) (request : HubRequest) (past : List (Sent FarmState))
    (sent : Sent FarmState) : Prop
  | aside (hinserts : inserts? farm request past = none)
      (hassigns : assigns? farm request past = none) (hdb : sent.after.db = sent.before.db)
  | insert (row : HubRow) (hinserts : inserts? farm request past = some row)
      (hassigns : assigns? farm request past = none) (hactive : row.isActive = true)
      (hport : row.processPort = none) (hpath : row.dbPath = farm.hubDbPath row.id)
      (h : sent.statement = executed (insertHub row))
  | assign (hubId : String) (port : UInt16) (hinserts : inserts? farm request past = none)
      (hassigns : assigns? farm request past = some (hubId, port))
      (h : sent.statement = written (setPort hubId port))
  | suspend (hubId : String) (now : Int) (reason : Option String)
      (hinserts : inserts? farm request past = none) (hassigns : assigns? farm request past = none)
      (h : sent.statement = written (markSuspended hubId now reason))
  | delete (hubId : String) (now : Int) (hinserts : inserts? farm request past = none)
      (hassigns : assigns? farm request past = none)
      (h : sent.statement = written (markDeleted hubId now))

section Statements

variable {farm : FarmConfig} {past : List (Sent FarmState)} {request : HubRequest}

theorem checkCreation_queries {sub : String} :
    (checkCreation sub).Follows (fun _ sent => sent.statement = id) (fun _ _ => True) past := by
  apply follows_fetch_bind (fun _ => rfl)
  intro s
  apply Prog.follows_whenSome
  · intro row _
    apply follows_fetch_bind (fun _ => rfl)
    intro s'
    split_ifs with hdisabled hopen
    · trivial
    · have hquota : ∀ (c : Prop) [Decidable c] (f : Db → ℕ) (bound : Int64) (e : ApiError)
          (past : List (Sent FarmState)),
          (Prog.when c (fetch f >>= fun n => Prog.ensure ((n : Int) < bound.toInt) e) :
            Handler Unit).Follows (fun _ sent => sent.statement = id) (fun _ _ => True) past := by
        intro c _ f bound e past
        apply Prog.follows_when
        · intro _
          apply follows_fetch_bind (fun _ => rfl)
          exact fun _ => Prog.follows_ensure fun _ => trivial
        · exact fun _ => trivial
      apply (hquota _ _ _ _ _).bind_any
      exact fun _ _ _ => hquota _ _ _ _ _
    · exact Prog.follows_ensure fun _ => trivial
  · exact fun _ => trivial

theorem generateHubId_queries (draws : List (List UInt8)) :
    (generateHubId draws).Follows (fun _ sent => sent.statement = id) (fun _ _ => True) past := by
  induction draws generalizing past with
  | nil => trivial
  | cons bytes rest ih =>
      apply follows_fetch_bind (fun _ => rfl)
      intro s
      split_ifs
      · exact ih
      · trivial

theorem prepareHub_queries {env : CreateHubEnv} {bearer : Bearer} {req : CreateHubRequest} :
    (prepareHub farm env bearer req).Follows (fun _ sent => sent.statement = id)
      (fun row _ => row.isActive = true ∧ row.processPort = none ∧
        row.dbPath = farm.hubDbPath row.id) [] := by
  have hauth : (requireAuth farm bearer).Follows (fun _ sent => sent.statement = id)
      (fun _ _ => True) [] := requireAuth_queries fun _ _ => trivial
  apply hauth.bind_any
  intro payload past _
  apply checkCreation_queries.bind_any
  intro _ past _
  -- What the check writes in its errors is not looked into.
  generalize checkHubName farm req.name = checked
  apply Prog.follows_ofExcept_bind
  intro name _
  apply (generateHubId_queries env.draws).bind_any
  intro hubId past _
  apply follows_unixNow_bind (fun _ => rfl)
  intro s
  apply Prog.follows_ofExcept_bind
  intro _ _
  exact ⟨rfl, rfl, rfl⟩

theorem allocatePort_queries :
    (allocatePort farm).Follows (fun _ sent => sent.statement = id)
      (fun _ past' => ∃ s, past' = past ++ [⟨id, s⟩]) past := by
  apply Prog.follows_query_bind (fun _ => rfl)
  intro s
  cases firstGap (s.running.rows.map (·.port)) ((s.running.rows.map (·.port)).length + 1)
      farm.basePort with
  | none => trivial
  | some port => exact ⟨s, rfl⟩

/-- What concerns processes only. -/
theorem spawnHub_processes {pid : Option ℕ} {hubId dbPath : String} {port : UInt16} :
    (spawnHub farm pid hubId dbPath port).Follows
      (fun _ sent => sent.after.db = sent.before.db) (fun _ _ => True) past := by
  have hstart : (startChild farm pid hubId dbPath port).Follows
      (fun _ sent => sent.after.db = sent.before.db) (fun _ _ => True) past := by
    exact fun s => ⟨rfl, trivial⟩
  apply hstart.bind_any
  intro spawned past _
  apply Prog.follows_whenSome
  · exact fun pid _ s => ⟨rfl, trivial⟩
  · exact fun _ => trivial

/-- `create_hub` up to the `UPDATE`. -/
theorem placeHub_sent {env : CreateHubEnv} {bearer : Bearer} {req : CreateHubRequest} :
    (placeHub farm env bearer req).Follows
      (fun past sent => assigns? farm (.createHub env bearer req) past = none →
        HubSent farm (.createHub env bearer req) past sent)
      (fun placed past => ∃ earlier sent more,
        (prepareHub farm env bearer req).returned? earlier = some placed.1 ∧
          past = earlier ++ sent :: more) [] := by
  apply prepareHub_queries.cut
  · intro past sent hrunning hquery hassigns
    refine .aside hrunning hassigns ?_
    rw [Sent.after, hquery]
    rfl
  · rintro row past hreturned ⟨hactive, hport, hpath⟩
    apply follows_execute_bind
    · exact fun s hassigns => .insert row hreturned hassigns hactive hport hpath rfl
    · intro s db hdb
      have hpast : ∀ past', past ++ [⟨executed (insertHub row), s⟩] <+: past' →
          inserts? farm (.createHub env bearer req) past' = none := by
        rintro past' ⟨more, rfl⟩
        rw [List.append_assoc]
        exact Prog.returned?_append_cons hreturned _ _
      have halloc : (allocatePort farm).Follows
          (fun past sent => assigns? farm (.createHub env bearer req) past = none →
            HubSent farm (.createHub env bearer req) past sent)
          (fun _ past' => ∃ s', past' = past ++ [⟨executed (insertHub row), s⟩] ++ [⟨id, s'⟩])
          (past ++ [⟨executed (insertHub row), s⟩]) := by
        apply allocatePort_queries.mono
        · intro past' sent hlater hquery hassigns
          refine .aside (hpast past' hlater) hassigns ?_
          rw [Sent.after, hquery]
          rfl
        · exact fun _ _ _ h => h
      apply halloc.bind
      rintro port past' - ⟨s', rfl⟩
      exact ⟨past, ⟨executed (insertHub row), s⟩, [⟨id, s'⟩], hreturned, by simp⟩

theorem createHub_sent {env : CreateHubEnv} {bearer : Bearer} {req : CreateHubRequest} :
    (createHub farm env bearer req).Follows (HubSent farm (.createHub env bearer req))
      (fun _ _ => True) [] := by
  apply placeHub_sent.cut
  · intro past sent hrunning hsent
    apply hsent
    show ((placeHub farm env bearer req).returned? past).map _ = none
    rw [hrunning]
    rfl
  · rintro placed past hreturned ⟨earlier, inserted, more, hprepared, rfl⟩
    have hinserts : ∀ later, inserts? farm (.createHub env bearer req)
        (earlier ++ inserted :: more ++ later) = none := by
      intro later
      rw [List.append_assoc]
      exact Prog.returned?_append_cons hprepared _ _
    apply follows_write_bind
    · intro s
      refine .assign placed.1.id placed.2 ?_ ?_ rfl
      · have hnow := hinserts []
        rwa [List.append_nil] at hnow
      · show ((placeHub farm env bearer req).returned? _).map _ = _
        rw [hreturned]
        rfl
    · intro s
      have hspawn : (spawnHub farm env.pid placed.1.id placed.1.dbPath placed.2).Follows
          (HubSent farm (.createHub env bearer req)) (fun _ _ => True)
          (earlier ++ inserted :: more ++ [⟨written (setPort placed.1.id placed.2), s⟩]) := by
        apply spawnHub_processes.mono
        · rintro past' sent ⟨later, rfl⟩ hdb
          refine .aside ?_ ?_ hdb
          · rw [List.append_assoc]
            exact hinserts _
          · show ((placeHub farm env bearer req).returned? _).map _ = none
            rw [List.append_assoc, List.singleton_append, Prog.returned?_append_cons hreturned]
            rfl
        · exact fun _ _ _ h => h
      exact hspawn.bind_any fun _ _ _ => trivial

theorem HubSent.query (hinserts : inserts? farm request past = none)
    (hassigns : assigns? farm request past = none) (s : FarmState) :
    HubSent farm request past ⟨id, s⟩ :=
  .aside hinserts hassigns rfl

theorem requireAuth_sent {bearer : Bearer} {past : List (Sent FarmState)}
    (hinserts : ∀ past, inserts? farm request past = none)
    (hassigns : ∀ past, assigns? farm request past = none) :
    (requireAuth farm bearer).Follows (HubSent farm request) (fun _ _ => True) past := by
  have hauth : (requireAuth farm bearer).Follows (fun _ sent => sent.statement = id)
      (fun _ _ => True) past := requireAuth_queries fun _ _ => trivial
  apply hauth.mono
  · intro past' sent _ hquery
    refine .aside (hinserts past') (hassigns past') ?_
    rw [Sent.after, hquery]
    rfl
  · exact fun _ _ _ h => h

theorem suspendHub_sent {bearer : Bearer} {hubId : String} {reason : Option String} :
    (suspendHub farm bearer hubId reason).Follows (HubSent farm (.suspendHub bearer hubId reason))
      (fun _ _ => True) [] := by
  apply (requireAuth_sent (fun _ => rfl) fun _ => rfl).bind_any
  intro payload past _
  apply follows_fetch_bind (HubSent.query rfl rfl)
  intro s
  apply Prog.follows_ensure_bind
  intro _
  apply follows_fetch_bind (HubSent.query rfl rfl)
  intro s'
  apply Prog.follows_ensure_bind
  intro _
  apply follows_unixNow_bind (HubSent.query rfl rfl)
  intro s''
  apply follows_write_bind
  · exact fun _ => .suspend hubId s''.clock reason rfl rfl rfl
  · exact fun _ => trivial

theorem deleteHub_sent {kills : Bool} {bearer : Bearer} {hubId : String} :
    (deleteHub farm kills bearer hubId).Follows (HubSent farm (.deleteHub kills bearer hubId))
      (fun _ _ => True) [] := by
  apply (requireAuth_sent (fun _ => rfl) fun _ => rfl).bind_any
  intro payload past _
  apply follows_fetch_bind (HubSent.query rfl rfl)
  intro s
  apply follows_fetch_bind (HubSent.query rfl rfl)
  intro s'
  cases s'.db.keptHub hubId with
  | none => trivial
  | some row =>
      apply Prog.follows_ensure_bind
      intro _
      apply Prog.follows_exec_bind
      · exact fun t => .aside rfl rfl (by rw [Sent.after, db_dropProcess])
      · intro t
        apply follows_unixNow_bind (HubSent.query rfl rfl)
        intro t'
        exact fun _ => ⟨.delete hubId t'.clock rfl rfl rfl, trivial⟩

theorem startup_sent {pids : String → Option ℕ} :
    (spawnAllFromDb farm pids).Follows (HubSent farm (.startup pids)) (fun _ _ => True) [] := by
  apply Prog.follows_query_bind (HubSent.query rfl rfl)
  intro s
  apply Prog.follows_each
  intro row _ past' _
  apply spawnHub_processes.mono
  · exact fun _ _ _ hdb => .aside rfl rfl hdb
  · exact fun _ _ _ h => h

theorem HubRequest.handler_sent (farm : FarmConfig) (request : HubRequest) :
    (request.handler farm).Follows (HubSent farm request) (fun _ _ => True) [] := by
  cases request with
  | startup pids => exact startup_sent
  | tick seconds => exact fun s => ⟨.aside rfl rfl rfl, trivial⟩
  | listens pid => exact fun s => ⟨.aside rfl rfl rfl, trivial⟩
  | exits pid => exact fun s => ⟨.aside rfl rfl rfl, trivial⟩
  | createHub env bearer req => exact createHub_sent.bind_any fun _ _ _ => trivial
  | suspendHub bearer hubId reason => exact suspendHub_sent.bind_any fun _ _ _ => trivial
  | deleteHub kills bearer hubId => exact deleteHub_sent

end Statements

/-! ## Servers -/

/-- What is left of the jobs keeps to what their requests may send. -/
abbrev FarmServer.Attached (farm : FarmConfig) (server : FarmServer) : Prop :=
  Server.Attached (HubSent farm) (fun _ _ _ => True) server

section Servers

variable {farm : FarmConfig} {server : FarmServer}

theorem attached_boot (farm : FarmConfig) (pids : String → Option ℕ) (s : FarmState) :
    FarmServer.Attached farm (boot farm pids s) :=
  Server.attached_idle.start (HubRequest.handler_sent farm) _

/-- Either a request is taken up, or the move is without effect. -/
theorem farmStep_start (farm : FarmConfig) (request : HubRequest) (server : FarmServer) :
    farmStep farm (.start request) server =
        Server.step (HubRequest.handler farm) (.start request) server ∨
      farmStep farm (.start request) server = server := by
  rw [farmStep]
  split_ifs
  · exact .inl rfl
  · exact .inr rfl

theorem FarmServer.Attached.step (h : FarmServer.Attached farm server) (move : FarmMove) :
    FarmServer.Attached farm (farmStep farm move server) := by
  cases move with
  | restart pids => exact attached_boot farm pids server.state
  | start request =>
      rcases farmStep_start farm request server with heq | heq
      · rw [heq]
        exact Server.Attached.start (HubRequest.handler_sent farm) h request
      · rwa [heq]
  | exec job =>
      show FarmServer.Attached farm (Server.step (HubRequest.handler farm) (.exec job) server)
      exact Server.Attached.exec h job

theorem turn?_exec (farm : FarmConfig) {job : ℕ} {request : HubRequest}
    {act : FarmState → FarmState}
    {next : FarmState → Handler Unit} (hjob : server.jobs[job]? = some (request, .step act next)) :
    turn? server (.exec job) = some (request, sentBy job server.history) ∧
      (farmStep farm (.exec job) server).state = act server.state := by
  constructor
  · rw [turn?, hjob]
  · simp [farmStep, Server.step, hjob]

/-- A job that has nothing to send does nothing. -/
theorem turn?_idle (farm : FarmConfig) {job : ℕ} (hjob : ∀ request act next,
    server.jobs[job]? ≠ some (request, .step act next)) :
    turn? server (.exec job) = none ∧ farmStep farm (.exec job) server = server := by
  cases hfound : server.jobs[job]? with
  | none => simp [turn?, farmStep, Server.step, hfound]
  | some entry =>
      obtain ⟨request, p⟩ := entry
      cases p with
      | ret a => simp [turn?, farmStep, Server.step, hfound]
      | fail e => simp [turn?, farmStep, Server.step, hfound]
      | step act next => exact absurd hfound (hjob request act next)

/-- A move leaves the store alone, or it executes a statement of the request whose turn it
is. -/
theorem farmStep_cases (h : FarmServer.Attached farm server) (move : FarmMove) :
    (turn? server move = none ∧ (farmStep farm move server).state.db = server.state.db) ∨
      ∃ request past sent, turn? server move = some (request, past) ∧
        HubSent farm request past sent ∧ sent.before = server.state ∧
          sent.after = (farmStep farm move server).state := by
  cases move with
  | restart pids => exact .inl ⟨rfl, rfl⟩
  | start request =>
      refine .inl ⟨rfl, ?_⟩
      rcases farmStep_start farm request server with heq | heq
      · rw [heq]
        rfl
      · rw [heq]
  | exec job =>
      by_cases hjob : ∃ request act next, server.jobs[job]? = some (request, .step act next)
      · obtain ⟨request, act, next, hjob⟩ := hjob
        obtain ⟨hturn, hstate⟩ := turn?_exec farm hjob
        exact .inr ⟨request, _, ⟨act, server.state⟩, hturn,
          (h.follows job request _ hjob server.state).1, rfl, hstate.symm⟩
      · have hidle : ∀ request act next, server.jobs[job]? ≠ some (request, .step act next) :=
          fun request act next hsome => hjob ⟨request, act, next, hsome⟩
        obtain ⟨hturn, hsame⟩ := turn?_idle farm hidle
        exact .inl ⟨hturn, by rw [hsame]⟩

end Servers

end Voxply.Farm
