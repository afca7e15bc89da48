import SceneRender.Proofs.Job.Stored
import SceneRender.Proofs.Pipeline.Chronicle
import SceneRender.Proofs.Pipeline.Exchanges
import SceneRender.Proofs.Runs

/-!
# A studio in which anything may go wrong

`Studio.Falters` is an exchange with a studio whose stores are not to be relied upon.
The job store fails as the crew has it; the cache may refuse any call; the store of the
videos may refuse any call for any reason, and what such a call leaves on the disk is
left open.  The renderer, the repair and the language model do as they please anyway.

Even so an exchange does little.  `Studio.writes_of_falters` lists what can become of the
job store: nothing is written, a job is made, or one job is updated.  The jobs that are
owned and the tasks that wait change by the question alone (`Studio.Falters.owned_eq`,
`Studio.Falters.queue_eq`).  All that follows in other modules is derived from these.
-/

namespace SceneRender

open Plan Pipeline ServiceExchange

/-- Does the store of the videos refuse? -/
def ServiceExchange.isVideoFault : ServiceExchange → Bool
  | ⟨.findVideo _, (reply : Except ArtifactFault (Option String))⟩
  | ⟨.cloneVideo _ _, (reply : Except ArtifactFault (Option String))⟩ => reply.toOption.isNone
  | ⟨.keepVideo _ _, (reply : Except ArtifactFault String)⟩ => reply.toOption.isNone
  | _ => false

namespace Studio

/-- The studio replies, with a cache that may fail from call to call and a store of videos
that may refuse from call to call. -/
def Falters (crew : Crew) (s : Studio) (e : ServiceExchange) (s' : Studio) : Prop :=
  (∃ refusal, reply crew e.question (s.withRefusal refusal) = (e.reply, s')) ∨
    e.isVideoFault = true ∧ ∃ disk, s' = { s with disk }

variable {crew : Crew} {s s' : Studio} {e : ServiceExchange} {id : String} {job : Job}

/-- A studio that replies as it should is one in which nothing happened to go wrong. -/
theorem falters_of_replies (h : s.Replies crew e s') : s.Falters crew e s' :=
  Or.inl ⟨s.cache.store.refusal, h⟩

/-- A plan that is run in the studio is a run in which nothing happened to go wrong. -/
theorem runs_runPlan {α : Type} (crew : Crew) (p : ServicePlan α) (s : Studio) :
    Runs (Studio.Falters crew) p s (s.runPlan crew p).1 (s.runPlan crew p).2 := by
  have hruns : Runs (Studio.Replies crew) p s (s.runPlan crew p).1 (s.runPlan crew p).2 :=
    runs_run (V := serviceVocabulary) (reply crew) p s
  exact hruns.mono fun _ _ _ => falters_of_replies

/-! ## The job store -/

/-- What an exchange does to the job store. -/
inductive Writes (crew : Crew) (s : Studio) : ServiceExchange → Studio → Prop
  /-- Nothing is written. -/
  | nothing {e : ServiceExchange} {s' : Studio} (unwritten : e.written? = none)
      (jobs : s'.jobs = s.jobs) (count : s.counts.made ≤ s'.counts.made) : Writes crew s e s'
  /-- A job is made. -/
  | made {job : Job} {s' : Studio} (given : job.id = crew.freshId s.counts.made)
      (fresh : job.undated = .fresh job.id .epoch)
      (stored : s'.jobs.stored? job.id = some (.fresh job.id .epoch))
      (others : ∀ id, id ≠ job.id → s'.jobs.held? id = s.jobs.held? id)
      (count : s'.counts.made = s.counts.made + 1) : Writes crew s (jobMade (.ok job)) s'
  /-- A job is updated. -/
  | updated {id : String} {u : JobUpdate} {job old : Job} {s' : Studio}
      (found : s.jobs.stored? id = some old) (new : job.undated = old.apply u .epoch)
      (stored : s'.jobs.stored? id = some (old.apply u .epoch))
      (others : ∀ id', id' ≠ id → s'.jobs.held? id' = s.jobs.held? id')
      (count : s'.counts.made = s.counts.made) :
      Writes crew s (jobUpdated id u (.ok (some job))) s'

/-- Making a job writes its record, or nothing. -/
theorem writes_createJob {r : Except StoreFault Job} (h : s.createJob crew = (r, s')) :
    s.Writes crew (jobMade r) s' := by
  rw [createJob] at h
  have hbad : ∀ {fault : StoreFault} {jobs : JobStore},
      s.jobs.create (crew.freshId s.counts.made) (crew.now s.counts.readings) =
        (.error fault, jobs) → jobs = s.jobs := by
    intro fault jobs hc
    have hself := JobStore.create_eq_error (congrArg Prod.fst hc)
    rwa [hc] at hself
  have hgood : ∀ {job : Job} {jobs : JobStore},
      s.jobs.create (crew.freshId s.counts.made) (crew.now s.counts.readings) = (.ok job, jobs) →
        job.id = crew.freshId s.counts.made ∧ job.undated = .fresh job.id .epoch ∧
        jobs.stored? job.id = some (.fresh job.id .epoch) ∧
        ∀ id, id ≠ job.id → jobs.held? id = s.jobs.held? id := by
    intro job jobs hc
    have hmade := JobStore.create_eq_ok (congrArg Prod.fst hc)
    have hstored := JobStore.stored?_create (congrArg Prod.fst hc)
    rw [hc] at hstored
    obtain rfl := hmade.1
    exact ⟨rfl, rfl, hstored.1, hstored.2⟩
  rcases hc : s.jobs.create (crew.freshId s.counts.made) (crew.now s.counts.readings)
    with ⟨fault | job, jobs⟩
  · rcases hfail : crew.storeFailure s.counts.creates .create with _ | fault' | _ <;>
      simp only [hfail, hc] at h <;> cases h
    · exact .nothing rfl (hbad hc) (Nat.le_succ _)
    · exact .nothing rfl rfl (Nat.le_refl _)
    · exact .nothing rfl (hbad hc) (Nat.le_succ _)
  · obtain ⟨given, fresh, stored, others⟩ := hgood hc
    rcases hfail : crew.storeFailure s.counts.creates .create with _ | fault' | _ <;>
      simp only [hfail, hc] at h <;> cases h
    · exact .made given fresh stored others rfl
    · exact .nothing rfl rfl (Nat.le_refl _)
    · exact .made given fresh stored others rfl

/-- Updating a job writes its record, or nothing. -/
theorem writes_updateJob {u : JobUpdate} {r : JobReply} (h : s.updateJob crew id u = (r, s')) :
    s.Writes crew (jobUpdated id u r) s' := by
  rw [updateJob] at h
  rcases hfail : crew.storeFailure s.counts.updates (.update id u) with _ | fault | _ <;>
    simp only [hfail] at h
  · rcases hu : s.jobs.update id u (crew.now s.counts.readings) with ⟨fault | _ | job, jobs⟩ <;>
      simp only [hu] at h <;> cases h
    · have hself : (s.jobs.update id u (crew.now s.counts.readings)).2 = s.jobs :=
        JobStore.update_eq_self fun job hjob => by rw [hu] at hjob; cases hjob
      rw [hu] at hself
      exact .nothing rfl hself (Nat.le_refl _)
    · have hself : (s.jobs.update id u (crew.now s.counts.readings)).2 = s.jobs :=
        JobStore.update_eq_self fun job hjob => by rw [hu] at hjob; cases hjob
      rw [hu] at hself
      exact .nothing rfl hself (Nat.le_refl _)
    · obtain ⟨old, found, new, stored, others⟩ := JobStore.stored?_update (congrArg Prod.fst hu)
      rw [hu] at stored others
      exact .updated found new stored others rfl
  · cases h
    exact .nothing rfl rfl (Nat.le_refl _)
  · cases h
    exact .nothing rfl rfl (Nat.le_refl _)

/-- A reply writes what its exchange says. -/
theorem writes_of_reply {q : ServiceQuestion} {r : q.Reply} (h : reply crew q s = (r, s')) :
    s.Writes crew ⟨q, r⟩ s' := by
  cases q with
  | createJob => exact writes_createJob h
  | updateJob id u => exact writes_updateJob h
  | getJob id =>
      obtain ⟨⟨n, rfl⟩, -⟩ := getJob_eq h
      exact .nothing rfl rfl (Nat.le_refl _)
  | render id code quality =>
      obtain ⟨-, disk, rfl, -⟩ := render_eq h
      exact .nothing rfl rfl (Nat.le_refl _)
  | _ =>
      cases h
      exact .nothing rfl rfl (Nat.le_refl _)

/-- **What an exchange does to the job store**, whatever goes wrong. -/
theorem writes_of_falters (h : s.Falters crew e s') : s.Writes crew e s' := by
  obtain ⟨q, r⟩ := e
  rcases h with ⟨refusal, hreply⟩ | ⟨hfault, disk, rfl⟩
  · -- the cache has no part in what is written
    have hwrites := writes_of_reply hreply
    generalize hs : s.withRefusal refusal = refused at hwrites
    have hjobs : refused.jobs = s.jobs := by rw [← hs]; rfl
    have hmade : refused.counts.made = s.counts.made := by rw [← hs]; rfl
    cases hwrites with
    | nothing unwritten jobs count => exact .nothing unwritten (jobs.trans hjobs) (hmade ▸ count)
    | made given fresh stored others count =>
        rw [hmade] at given count
        rw [hjobs] at others
        exact .made given fresh stored others count
    | updated found new stored others count =>
        rw [hmade] at count
        rw [hjobs] at found others
        exact .updated found new stored others count
  · cases q with
    | findVideo id => exact .nothing rfl rfl (Nat.le_refl _)
    | keepVideo id path => exact .nothing rfl rfl (Nat.le_refl _)
    | cloneVideo source target => exact .nothing rfl rfl (Nat.le_refl _)
    | _ => cases hfault

/-- What an exchange that writes nothing leaves as it is. -/
theorem Falters.jobs_eq (h : s.Falters crew e s') (hnone : e.written? = none) :
    s'.jobs = s.jobs := by
  have hwrites := writes_of_falters h
  cases hwrites with
  | nothing unwritten jobs count => exact jobs
  | made => cases hnone
  | updated => cases hnone

/-- A record that is read is the one that is kept. -/
theorem Falters.read (h : s.Falters crew (jobRead id (.ok (some job))) s') :
    s.jobs.get id = .ok (some job) := by
  rcases h with ⟨refusal, hreply⟩ | ⟨hfault, -⟩
  · exact (getJob_eq hreply).2 job rfl
  · cases hfault

/-- Nothing in the job store goes away. -/
theorem Falters.has (h : s.Falters crew e s') (hid : s.jobs.Has id) : s'.jobs.Has id := by
  have hwrites := writes_of_falters h
  cases hwrites with
  | nothing unwritten jobs count => rwa [jobs]
  | @made job _ given fresh stored others count =>
      by_cases heq : id = job.id
      · rw [heq]
        exact JobStore.has_of_stored? stored
      · exact (JobStore.has_congr (JobStore.get_congr (others id heq))).mpr hid
  | @updated id' u job old _ found new stored others count =>
      by_cases heq : id = id'
      · rw [heq]
        exact JobStore.has_of_stored? stored
      · exact (JobStore.has_congr (JobStore.get_congr (others id heq))).mpr hid

/-! ## A job store that can be relied upon -/

/-- What a job store that can be relied upon says of a job: its record, or rightly that it
is missing. -/
def RightlySaid (jobs : JobStore) (id : String) (reply : JobReply) : Prop :=
  Kept reply ∨ reply = .ok none ∧ ¬ jobs.Has id

/-- A call of the job store does not fail. -/
def Succeeds (s : Studio) : ServiceExchange → Prop
  | ⟨.createJob, (reply : Except StoreFault Job)⟩ => ∃ job, reply = .ok job
  | ⟨.getJob id, (reply : JobReply)⟩ | ⟨.updateJob id _, (reply : JobReply)⟩ =>
    RightlySaid s.jobs id reply
  | _ => True

/-- The studio replies, and its job store does not fail; all else may go wrong. -/
def Attends (crew : Crew) (s : Studio) (e : ServiceExchange) (s' : Studio) : Prop :=
  s.Falters crew e s' ∧ s.Succeeds e

/-- Of a job that is there, the record is said. -/
theorem RightlySaid.kept {jobs : JobStore} {reply : JobReply} (h : RightlySaid jobs id reply)
    (hid : jobs.Has id) : Kept reply := by
  rcases h with hkept | ⟨-, hnot⟩
  · exact hkept
  · exact absurd hid hnot

/-- Do the stores reply well to a question: is no reply a fault, is a job found? -/
def isWellAnswered (crew : Crew) (s : Studio) (q : ServiceQuestion) : Bool :=
  served ⟨q, (reply crew q s).1⟩ && isFaultless ⟨q, (reply crew q s).1⟩

/-- A well answered question is attended to. -/
theorem attends_of_isWellAnswered (hwell : s.isWellAnswered crew e.question = true)
    (h : s.Replies crew e s') : s.Attends crew e s' := by
  refine ⟨falters_of_replies h, ?_⟩
  obtain ⟨q, r⟩ := e
  have hr : (reply crew q s).1 = r := congrArg Prod.fst h
  change (served ⟨q, (reply crew q s).1⟩ && isFaultless ⟨q, (reply crew q s).1⟩) = true at hwell
  rw [hr, Bool.and_eq_true] at hwell
  cases q with
  | createJob =>
      rcases r with fault | job
      · cases hwell.2
      · exact ⟨job, rfl⟩
  | getJob id =>
      rcases r with fault | _ | job
      · cases hwell.2
      · cases hwell.1
      · exact Or.inl ⟨job, rfl⟩
  | updateJob id u =>
      rcases r with fault | _ | job
      · cases hwell.2
      · cases hwell.1
      · exact Or.inl ⟨job, rfl⟩
  | _ => exact trivial

/-! ## Jobs to come -/

/-- Nothing is kept yet under the ids that are still to be given away. -/
def FreshAhead (crew : Crew) (s : Studio) : Prop :=
  ∀ n, s.counts.made ≤ n → ¬ s.jobs.Has (crew.freshId n)

/-- **New ids stay new**, as fresh ids do not repeat. -/
theorem FreshAhead.falters (hfresh : Function.Injective crew.freshId) (hs : s.FreshAhead crew)
    (h : s.Falters crew e s') : s'.FreshAhead crew := by
  intro n hn hid
  have hwrites := writes_of_falters h
  cases hwrites with
  | nothing unwritten jobs count =>
      rw [jobs] at hid
      exact hs n (Nat.le_trans count hn) hid
  | @made job _ given fresh stored others count =>
      have hother : crew.freshId n ≠ job.id := by
        intro heq
        have hsame := hfresh (heq.trans given)
        omega
      have hkept := JobStore.has_congr (JobStore.get_congr (others _ hother))
      exact hs n (by omega) (hkept.mp hid)
  | @updated id u job old _ found new stored others count =>
      rw [count] at hn
      by_cases heq : crew.freshId n = id
      · rw [← heq] at found
        exact hs n hn (JobStore.has_of_stored? found)
      · have hkept := JobStore.has_congr (JobStore.get_congr (others _ heq))
        exact hs n hn (hkept.mp hid)

/-- In a new studio all ids are fresh. -/
theorem IsNew.freshAhead (h : s.IsNew) : s.FreshAhead crew :=
  fun _ _ => h.not_has _

/-- A job that is made was not there. -/
theorem FreshAhead.not_has (hs : s.FreshAhead crew) (h : s.Falters crew (jobMade (.ok job)) s') :
    ¬ s.jobs.Has job.id := by
  have hwrites := writes_of_falters h
  cases hwrites with
  | nothing unwritten => cases unwritten
  | made given =>
      rw [given]
      exact hs _ (Nat.le_refl _)

/-! ## Owned jobs and waiting tasks -/

/-- The jobs that are owned after a question. -/
def ownedAfter : ServiceQuestion → List String → List String
  | .claim id, owned => if owned.contains id then owned else id :: owned
  | .release id, owned => owned.filter (· != id)
  | _, owned => owned

/-- The tasks that wait after a question. -/
def queueAfter : ServiceQuestion → TaskQueue → TaskQueue
  | .dispatch task, q => (q.push task).2
  | _, q => q

/-- A reply changes the owned jobs and the queue as its question says. -/
theorem reply_surroundings {q : ServiceQuestion} {r : q.Reply} (h : reply crew q s = (r, s')) :
    s'.owned = ownedAfter q s.owned ∧ s'.queue = queueAfter q s.queue := by
  cases q with
  | createJob =>
      obtain ⟨jobs, counts, record, rfl, -⟩ := createJob_eq h
      exact ⟨rfl, rfl⟩
  | getJob id =>
      obtain ⟨⟨n, rfl⟩, -⟩ := getJob_eq h
      exact ⟨rfl, rfl⟩
  | updateJob id u =>
      obtain ⟨jobs, counts, record, rfl, -⟩ := updateJob_eq h
      exact ⟨rfl, rfl⟩
  | render id code quality =>
      obtain ⟨-, disk, rfl, -⟩ := render_eq h
      exact ⟨rfl, rfl⟩
  | _ =>
      cases h
      exact ⟨rfl, rfl⟩

/-- An exchange that may falter changes them in the same way. -/
theorem falters_surroundings (h : s.Falters crew e s') :
    s'.owned = ownedAfter e.question s.owned ∧ s'.queue = queueAfter e.question s.queue := by
  rcases h with ⟨refusal, hreply⟩ | ⟨hfault, disk, rfl⟩
  · have hsurroundings := reply_surroundings hreply
    exact hsurroundings
  · obtain ⟨q, r⟩ := e
    cases q with
    | findVideo id => exact ⟨rfl, rfl⟩
    | keepVideo id path => exact ⟨rfl, rfl⟩
    | cloneVideo source target => exact ⟨rfl, rfl⟩
    | _ => cases hfault

/-- The question alone decides which jobs are owned. -/
theorem Falters.owned_eq (h : s.Falters crew e s') : s'.owned = ownedAfter e.question s.owned :=
  (falters_surroundings h).1

/-- The question alone decides which tasks wait. -/
theorem Falters.queue_eq (h : s.Falters crew e s') : s'.queue = queueAfter e.question s.queue :=
  (falters_surroundings h).2

/-- Does a question leave the owned jobs and the waiting tasks alone? -/
def isCalm : ServiceQuestion → Bool
  | .claim _ | .release _ | .dispatch _ => false
  | _ => true

/-- A calm question changes neither the owned jobs nor the queue. -/
theorem calm_surroundings (h : s.Falters crew e s') (hcalm : isCalm e.question = true) :
    s'.owned = s.owned ∧ s'.queue = s.queue := by
  rw [h.owned_eq, h.queue_eq]
  obtain ⟨q, r⟩ := e
  cases q <;> first | exact ⟨rfl, rfl⟩ | cases hcalm

/-- Whether a job is owned is said truly. -/
theorem Falters.tested {reply : Bool} (h : s.Falters crew (ownershipTested id reply) s') :
    reply = s.owned.contains id := by
  rcases h with ⟨refusal, hreply⟩ | ⟨hfault, -⟩
  · exact (congrArg Prod.fst hreply).symm
  · cases hfault

/-- After a claim the job is owned. -/
theorem mem_ownedAfter_claim {id' : String} {owned : List String} :
    id' ∈ ownedAfter (.claim id) owned ↔ id' = id ∨ id' ∈ owned := by
  rw [ownedAfter]
  split
  · next hin =>
      rw [List.contains_iff_mem] at hin
      constructor
      · exact Or.inr
      · rintro (rfl | hmem)
        · exact hin
        · exact hmem
  · exact List.mem_cons

/-- After a release the job is not owned. -/
theorem mem_ownedAfter_release {id' : String} {owned : List String} :
    id' ∈ ownedAfter (.release id) owned ↔ id' ∈ owned ∧ id' ≠ id := by
  simp [ownedAfter]

/-- What is owned after a question was owned before it, or is what the question claims. -/
theorem mem_ownedAfter {q : ServiceQuestion} {owned : List String} (h : id ∈ ownedAfter q owned) :
    id ∈ owned ∨ q = .claim id := by
  cases q with
  | claim id' =>
      rcases mem_ownedAfter_claim.mp h with rfl | hold
      · exact Or.inr rfl
      · exact Or.inl hold
  | release id' => exact Or.inl (mem_ownedAfter_release.mp h).1
  | _ => exact Or.inl h

/-! ## Orderly studios -/

/-- A studio is orderly if nothing is kept yet under the ids to come, and all that is owned
is there. -/
structure Orderly (crew : Crew) (s : Studio) : Prop where
  ahead : s.FreshAhead crew
  owned : ∀ id ∈ s.owned, s.jobs.Has id

/-- A new studio is orderly. -/
theorem IsNew.orderly (h : s.IsNew) : s.Orderly crew := by
  refine ⟨h.freshAhead, ?_⟩
  intro id hmem
  rw [h.owned] at hmem
  cases hmem

/-- Only what is there may be claimed. -/
theorem Orderly.falters (hfresh : Function.Injective crew.freshId) (hs : s.Orderly crew)
    (h : s.Falters crew e s') (hclaim : ∀ id, e.question = .claim id → s.jobs.Has id) :
    s'.Orderly crew := by
  refine ⟨hs.ahead.falters hfresh h, ?_⟩
  intro id hmem
  rw [h.owned_eq] at hmem
  rcases mem_ownedAfter hmem with hold | hnew
  · exact h.has (hs.owned id hold)
  · exact h.has (hclaim id hnew)

/-- In a submission, the job that was made is there. -/
def OrderlySubmission (crew : Crew) (stage : SubmitStage) (s : Studio) : Prop :=
  s.Orderly crew ∧ ∀ job, stage = .created job → s.jobs.Has job.id

/-- A submission stays orderly. -/
theorem OrderlySubmission.turn {code : String} {quality : Quality} {allowRetry : Bool}
    {stage stage' : SubmitStage} (hfresh : Function.Injective crew.freshId)
    (hturn : SubmitTurn code quality allowRetry stage e stage') (h : s.Falters crew e s')
    (hs : OrderlySubmission crew stage s) : OrderlySubmission crew stage' s' := by
  obtain ⟨horderly, hmade⟩ := hs
  refine ⟨horderly.falters hfresh h ?_, ?_⟩
  · intro id hclaim
    obtain ⟨made, hstage, rfl⟩ := hturn.created_of_claim hclaim
    exact hmade made hstage
  · intro job hcreated
    obtain rfl : e = jobMade (.ok job) := hturn.made_of_created hcreated
    have hwrites := writes_of_falters h
    cases hwrites with
    | nothing unwritten => cases unwritten
    | made given fresh stored others count => exact JobStore.has_of_stored? stored

/-- Work at a task keeps the studio orderly. -/
theorem Orderly.workTurn {task : RenderTask} {stage stage' : WorkStage}
    (hfresh : Function.Injective crew.freshId) (hturn : WorkTurn task stage e stage')
    (h : s.Falters crew e s') (hs : s.Orderly crew) : s'.Orderly crew :=
  hs.falters hfresh h fun id hclaim => absurd hclaim (hturn.ne_claim id)

/-- Abandoning a task keeps the studio orderly. -/
theorem Orderly.abandonTurn {id' reason : String} {stage stage' : AbandonStage}
    (hfresh : Function.Injective crew.freshId) (hturn : AbandonTurn id' reason stage e stage')
    (h : s.Falters crew e s') (hs : s.Orderly crew) : s'.Orderly crew :=
  hs.falters hfresh h fun id hclaim => absurd hclaim (hturn.ne_claim id)

/-- **Whatever is done, an orderly studio stays orderly.** -/
theorem Orderly.takes (hfresh : Function.Injective crew.freshId) (hs : s.Orderly crew)
    {deed : Deed} (h : deed.Takes (Studio.Falters crew) s s') : s'.Orderly crew := by
  cases deed with
  | submitted code quality allowRetry answer =>
      have hrun : Runs (Studio.Falters crew) (submit code quality allowRetry).run s answer s' := h
      have hend : ∃ stage, SubmitEnd stage answer ∧ OrderlySubmission crew stage s' :=
        (follows_submit code quality allowRetry).run hrun ⟨hs, fun _ heq => nomatch heq⟩
          (OrderlySubmission.turn hfresh)
      obtain ⟨_, -, horderly, -⟩ := hend
      exact horderly
  | processed maxRetries task answer =>
      have hrun : Runs (Studio.Falters crew) (process maxRetries task) s answer s' := h
      have hend : ∃ stage, stage = WorkStage.complete ∧ s'.Orderly crew :=
        (follows_process maxRetries task).run hrun hs (Orderly.workTurn hfresh)
      obtain ⟨_, -, horderly⟩ := hend
      exact horderly
  | abandoned id reason answer =>
      have hrun : Runs (Studio.Falters crew) (abandon id reason).run s answer s' := h
      have hend : ∃ stage, stage = AbandonStage.complete ∧ s'.Orderly crew :=
        (follows_abandon id reason).run hrun hs (Orderly.abandonTurn hfresh)
      obtain ⟨_, -, horderly⟩ := hend
      exact horderly
  | deleted id =>
      obtain rfl : s' = { s with disk := (s.videos.delete id s.disk).2 } := h
      exact ⟨hs.ahead, hs.owned⟩
  | restarted =>
      obtain rfl : s' = { s with owned := [] } := h
      exact ⟨hs.ahead, fun id hmem => by cases hmem⟩

/-- **Every studio that can be reached from a new one is orderly.** -/
theorem Orderly.chronicle {allowed : List Entry → Deed → Prop} {start : Studio}
    {past : List Entry} (hstart : start.Orderly crew) (hfresh : Function.Injective crew.freshId)
    (h : Chronicle (Studio.Falters crew) allowed start past s) : s.Orderly crew := by
  induction h with
  | start => exact hstart
  | next before allows takes ih => exact ih.takes hfresh takes

end Studio

end SceneRender
