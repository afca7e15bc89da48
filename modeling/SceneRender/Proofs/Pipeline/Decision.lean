import SceneRender.Proofs.Pipeline.Chronicle
import SceneRender.Proofs.Pipeline.Exchanges

/-!
# What a submission is answered with

The answer to a submission depends on four things that are changed one by one: what the
cache names, what the record of that job says, whether the job is owned here, and whether
its video is there.  The first and the third follow from the past alone: the cache names
the job that was enqueued last for the input, and the jobs in hand are owned.

`Studio.Remembers` says so and holds after every chronicle.  From it `submission_decided`
reads off the law: a copy of the video of a finished job, or the unfinished job that is in
hand, or else a new job.
-/

namespace SceneRender

open Plan Pipeline ServiceExchange

/-! ## What cache and owned jobs tell -/

/-- Cache and owned jobs agree with the past. -/
structure Studio.Remembers (crew : Crew) (past : List Entry) (s : Studio) : Prop where
  order : Studio.IdsInOrder crew s
  working : s.cache.store.refusal = none
  there : ∀ e ∈ past, ∀ task, e.deed.enqueued? = some task → s.jobs.Has task.jobId
  owned : ∀ id, id ∈ s.owned ↔ inHand id past = true
  recalled : ∀ quality code, NoCollision past (renderCanonical quality code) →
    s.cache.remembered? .render (inputPrint quality code) = latest quality code past

/-- What a deed keeps, once it began, until cache and owned jobs are something else. -/
structure Studio.Holds (crew : Crew) (start : Studio) (cache : ResultCache)
    (owned : String → Prop) (s : Studio) : Prop where
  order : Studio.IdsInOrder crew s
  there : ∀ id, start.jobs.Has id → s.jobs.Has id
  cache : s.cache = cache
  owned : ∀ id, id ∈ s.owned ↔ owned id

section Holding

variable {crew : Crew} {start s s' : Studio} {cache : ResultCache} {owned : String → Prop}
  {id : String}

/-- At first all that is held is there. -/
theorem Studio.Holds.refl (h : Studio.IdsInOrder crew start) :
    start.Holds crew start.cache (· ∈ start.owned) start :=
  ⟨h, fun _ hid => hid, rfl, fun _ => Iff.rfl⟩

namespace Studio.Holds

/-- A question that leaves cache and owned jobs alone keeps all this. -/
theorem keep (h : start.Holds crew cache owned s) {q : ServiceQuestion} {r : q.Reply}
    (hreply : Studio.reply crew q s = (r, s')) (hquiet : q.isQuiet = true) :
    start.Holds crew cache owned s' := by
  obtain ⟨hcache, howned⟩ := Studio.reply_quiet hreply hquiet
  refine ⟨h.order.reply hreply, fun id hid => Studio.reply_has hreply (h.there id hid),
    hcache.trans h.cache, ?_⟩
  rw [howned]
  exact h.owned

/-- Letting go of a job takes it from the owned ones. -/
theorem release (h : start.Holds crew cache owned s)
    (hreply : Studio.reply crew (.release id) s = ((), s')) :
    start.Holds crew cache (fun id' => owned id' ∧ id' ≠ id) s' := by
  refine ⟨h.order.reply hreply, fun id' hid => Studio.reply_has hreply (h.there id' hid), ?_, ?_⟩
  · cases hreply
    exact h.cache
  · cases hreply
    intro id'
    simp [h.owned id']

/-- Taking a job on adds it to the owned ones. -/
theorem claim (h : start.Holds crew cache owned s)
    (hreply : Studio.reply crew (.claim id) s = ((), s')) :
    start.Holds crew cache (fun id' => owned id' ∨ id' = id) s' := by
  refine ⟨h.order.reply hreply, fun id' hid => Studio.reply_has hreply (h.there id' hid), ?_, ?_⟩
  · cases hreply
    exact h.cache
  · cases hreply
    intro id'
    change id' ∈ (if s.owned.contains id then s.owned else id :: s.owned) ↔ _
    rw [← h.owned id']
    split
    · next hmem =>
        rw [List.contains_iff_mem] at hmem
        constructor
        · exact Or.inl
        · rintro (hold | rfl)
          · exact hold
          · exact hmem
    · rw [List.mem_cons]
      exact or_comm

/-- Remembering a job changes the cache. -/
theorem remember (h : start.Holds crew cache owned s) {print : String}
    (hreply : Studio.reply crew (.remember .render print id) s = ((), s')) :
    start.Holds crew (cache.put .render print id) owned s' := by
  refine ⟨h.order.reply hreply, fun id' hid => Studio.reply_has hreply (h.there id' hid), ?_, ?_⟩
  · cases hreply
    exact congrArg (fun cache : ResultCache => cache.put .render print id) h.cache
  · cases hreply
    exact h.owned

end Studio.Holds

/-- What is kept in each stage of the work at a task. -/
def WorkHolds (crew : Crew) (start : Studio) (task : RenderTask) : WorkStage → Studio → Prop
  | .cleaning, s | .doubted, s | .complete, s =>
    start.Holds crew start.cache (fun id => id ∈ start.owned ∧ id ≠ task.jobId) s
  | _, s => start.Holds crew start.cache (· ∈ start.owned) s

/-- Work at a task changes nothing that is held but the job of the task. -/
theorem workHolds_turn {task : RenderTask} {stage stage' : WorkStage} {e : ServiceExchange}
    (hturn : WorkTurn task stage e stage') (hreply : s.Replies crew e s')
    (h : WorkHolds crew start task stage s) : WorkHolds crew start task stage' s' := by
  cases hturn with
  | released => exact Studio.Holds.release h hreply
  | dropped => exact Studio.Holds.release h hreply
  | _ => exact Studio.Holds.keep h hreply rfl

/-- What is kept in each stage of giving a job up. -/
def AbandonHolds (crew : Crew) (start : Studio) (id : String) : AbandonStage → Studio → Prop
  | .begun, s => start.Holds crew start.cache (· ∈ start.owned) s
  | .freed, s | .complete, s =>
    start.Holds crew start.cache (fun id' => id' ∈ start.owned ∧ id' ≠ id) s

/-- Abandoning a task changes nothing that is held but its job. -/
theorem abandonHolds_turn {reason : String} {stage stage' : AbandonStage} {e : ServiceExchange}
    (hturn : AbandonTurn id reason stage e stage') (hreply : s.Replies crew e s')
    (h : AbandonHolds crew start id stage s) : AbandonHolds crew start id stage' s' := by
  cases hturn with
  | released => exact Studio.Holds.release h hreply
  | ended reply => exact Studio.Holds.keep h hreply rfl

/-- What is kept in each stage of a submission. -/
def SubmitHolds (crew : Crew) (start : Studio) (quality : Quality) (code : String) :
    SubmitStage → Studio → Prop
  | .created job, s =>
    start.Holds crew start.cache (· ∈ start.owned) s ∧ s.jobs.Has job.id
  | .taken job, s =>
    start.Holds crew start.cache (fun id => id ∈ start.owned ∨ id = job.id) s ∧ s.jobs.Has job.id
  | .answered (.ok (.enqueued job _)), s =>
    start.Holds crew (start.cache.put .render (inputPrint quality code) job.id)
      (fun id => id ∈ start.owned ∨ id = job.id) s ∧ s.jobs.Has job.id
  | _, s => start.Holds crew start.cache (· ∈ start.owned) s

/-- A submission holds what its stage says. -/
theorem submitHolds_turn {code : String} {quality : Quality} {allowRetry : Bool}
    {stage stage' : SubmitStage} {e : ServiceExchange}
    (hturn : SubmitTurn code quality allowRetry stage e stage') (hreply : s.Replies crew e s')
    (h : SubmitHolds crew start quality code stage s) :
    SubmitHolds crew start quality code stage' s' := by
  cases hturn with
  | read job =>
      have hs := Studio.Holds.keep h hreply rfl
      rw [stageOfKnown]
      split
      · exact hs
      · split <;> exact hs
  | created job =>
      refine ⟨Studio.Holds.keep h hreply rfl, ?_⟩
      obtain ⟨jobs, counts, record, rfl, -, -, -, hcreates⟩ := Studio.createJob_eq hreply
      cases hcreates with
      | made fresh has record others =>
          have hid : job.id = crew.freshId s.counts.made := congrArg Job.id fresh
          rw [hid]
          exact has
  | claimed => exact ⟨h.1.claim hreply, Studio.reply_has hreply h.2⟩
  | remembered => exact ⟨h.1.remember hreply, Studio.reply_has hreply h.2⟩
  | _ => exact Studio.Holds.keep h hreply rfl

end Holding

/-! ## Whole chronicles -/

section Chronicles

variable {crew : Crew} {start s s' : Studio} {past : List Entry} {quality : Quality}
  {code : String} {id : String}

/-- The job that was enqueued last for an input was enqueued for it. -/
theorem mem_of_latest (h : latest quality code past = some id) :
    ∃ e ∈ past, ∃ task, e.deed.enqueued? = some task ∧ task.jobId = id := by
  obtain ⟨e, he, hfound⟩ := List.exists_of_findSome?_eq_some h
  refine ⟨e, he, ?_⟩
  cases htask : e.deed.enqueued? with
  | none => simp [htask] at hfound
  | some task => exact ⟨task, rfl, by simp [htask] at hfound; exact hfound.2⟩

/-- A deed that enqueues nothing is not the last one for any input. -/
theorem latest_quiet {deed : Deed} (hdeed : deed.enqueued? = none) :
    latest quality code (⟨deed, s, s'⟩ :: past) = latest quality code past := by
  simp [latest, hdeed]

namespace Studio.Remembers

/-- A new studio remembers an empty past. -/
theorem ofNew (h : start.IsNew) (hworking : start.cache.store.refusal = none) :
    Studio.Remembers crew [] start where
  order := h.idsInOrder
  working := hworking
  there e he := by cases he
  owned id := by
    rw [h.owned]
    exact iff_of_false List.not_mem_nil Bool.false_ne_true
  recalled quality code _ := h.remembered? _ _

/-- A deed that enqueues nothing only lets go of jobs. -/
theorem next_quiet (hs : Studio.Remembers crew past s) {deed : Deed}
    (hdeed : deed.enqueued? = none)
    (h : s.Holds crew s.cache (fun id => id ∈ s.owned ∧ deed.letsGo id = false) s') :
    Studio.Remembers crew (⟨deed, s, s'⟩ :: past) s' where
  order := h.order
  working := by
    rw [h.cache]
    exact hs.working
  there e he task htask := by
    rcases List.mem_cons.mp he with rfl | hold
    · rw [show deed.enqueued? = some task from htask] at hdeed
      cases hdeed
    · exact h.there _ (hs.there e hold task htask)
  owned id := by
    rw [h.owned id, hs.owned id]
    simp [inHand, hdeed]
  recalled quality code hdistinct := by
    rw [h.cache, latest_quiet hdeed]
    exact hs.recalled quality code fun e he => hdistinct e (List.mem_cons_of_mem _ he)

/-- A job that is enqueued is in hand and is the last one for its input. -/
theorem next_enqueued (hs : Studio.Remembers crew past s) {allowRetry : Bool} {job : Job}
    (h : s.Holds crew (s.cache.put .render (inputPrint quality code) job.id)
      (fun id => id ∈ s.owned ∨ id = job.id) s')
    (hjob : s'.jobs.Has job.id) :
    Studio.Remembers crew
      (⟨.submitted code quality allowRetry
          (.ok (.enqueued job ⟨job.id, code, quality, allowRetry⟩)), s, s'⟩ :: past) s' where
  order := h.order
  working := by
    rw [h.cache, ResultCache.refusal_put]
    exact hs.working
  there e he task htask := by
    rcases List.mem_cons.mp he with rfl | hold
    · cases htask
      exact hjob
    · exact h.there _ (hs.there e hold task htask)
  owned id := by
    rw [h.owned id, hs.owned id]
    simp only [inHand, Deed.enqueued?, Deed.letsGo, Option.any_some, Bool.not_false,
      Bool.and_true, Bool.or_eq_true, beq_iff_eq]
    rw [or_comm, eq_comm]
  recalled quality' code' hdistinct := by
    rw [h.cache, ResultCache.remembered?_put hs.working]
    have hold := hs.recalled quality' code' fun e he => hdistinct e (List.mem_cons_of_mem _ he)
    by_cases hsame : quality = quality' ∧ code = code'
    · obtain ⟨rfl, rfl⟩ := hsame
      simp [latest, Deed.enqueued?]
    · have hprint : inputPrint quality' code' ≠ inputPrint quality code := by
        intro heq
        exact hsame (hdistinct.input_eq (List.mem_cons_self ..) rfl heq.symm)
      rw [if_neg hprint, hold]
      simp [latest, Deed.enqueued?, hsame]

end Studio.Remembers

/-- **Cache and owned jobs agree with the past after every chronicle.** -/
theorem remembers_chronicle {allowed : List Entry → Deed → Prop} (hstart : start.IsNew)
    (hworking : start.cache.store.refusal = none)
    (h : Chronicle (Studio.Replies crew) allowed start past s) :
    Studio.Remembers crew past s := by
  induction h with
  | start => exact .ofNew hstart hworking
  | @next past s s' deed before allows takes hs =>
      have hfirst : s.Holds crew s.cache (· ∈ s.owned) s := .refl hs.order
      cases deed with
      | submitted code quality allowRetry answer =>
          have hrun : Runs (Studio.Replies crew) (submit code quality allowRetry).run s answer s' :=
            takes
          have hend : ∃ stage', SubmitEnd stage' answer ∧
              SubmitHolds crew s quality code stage' s' :=
            (follows_submit code quality allowRetry).run hrun hfirst submitHolds_turn
          obtain ⟨_, rfl, h⟩ := hend
          rcases answer with fault | ⟨job | job | ⟨job, task⟩⟩
          · exact hs.next_quiet rfl (by simpa [Deed.letsGo, SubmitHolds] using h)
          · exact hs.next_quiet rfl (by simpa [Deed.letsGo, SubmitHolds] using h)
          · exact hs.next_quiet rfl (by simpa [Deed.letsGo, SubmitHolds] using h)
          · obtain rfl := task_of_enqueued hrun
            exact hs.next_enqueued h.1 h.2
      | processed maxRetries task answer =>
          have hrun : Runs (Studio.Replies crew) (process maxRetries task) s answer s' := takes
          have hend : ∃ stage', stage' = WorkStage.complete ∧ WorkHolds crew s task stage' s' :=
            (follows_process maxRetries task).run hrun hfirst workHolds_turn
          obtain ⟨_, rfl, h⟩ := hend
          refine hs.next_quiet rfl ?_
          simpa [Deed.letsGo, WorkHolds, ne_comm] using h
      | abandoned id reason answer =>
          have hrun : Runs (Studio.Replies crew) (abandon id reason).run s answer s' := takes
          have hend : ∃ stage', stage' = AbandonStage.complete ∧ AbandonHolds crew s id stage' s' :=
            (follows_abandon id reason).run hrun hfirst abandonHolds_turn
          obtain ⟨_, rfl, h⟩ := hend
          refine hs.next_quiet rfl ?_
          simpa [Deed.letsGo, AbandonHolds, ne_comm] using h
      | deleted id =>
          obtain rfl : s' = { s with disk := (s.videos.delete id s.disk).2 } := takes
          refine hs.next_quiet rfl ⟨⟨hs.order.given, hs.order.own⟩, fun _ hid => hid, rfl, ?_⟩
          simp [Deed.letsGo]
      | restarted =>
          obtain rfl : s' = { s with owned := [] } := takes
          refine hs.next_quiet rfl ⟨⟨hs.order.given, hs.order.own⟩, fun _ hid => hid, rfl, ?_⟩
          simp [Deed.letsGo]

end Chronicles

/-! ## The law -/

/-- A copy is due: the job that was enqueued last for the input is done, and its video is
there. -/
structure CopyDue (past : List Entry) (quality : Quality) (code : String) (s : Studio)
    (id : String) (content : ByteArray) : Prop where
  latest : latest quality code past = some id
  done : ∃ job, s.jobs.get id = .ok (some job) ∧ job.status = .done
  video : s.videos.video? s.disk id = some content

/-- A job is to be shared: it was enqueued last for the input, it is unfinished, and it is in
hand. -/
structure ShareDue (past : List Entry) (quality : Quality) (code : String) (s : Studio)
    (job : Job) : Prop where
  latest : latest quality code past = some job.id
  record : s.jobs.get job.id = .ok (some job)
  unfinished : job.status.isTerminal = false
  inHand : inHand job.id past = true

/-- A new job is due: no copy is, and no job is to be shared. -/
structure NewDue (past : List Entry) (quality : Quality) (code : String) (s : Studio) : Prop where
  copy : ¬ ∃ id content, CopyDue past quality code s id content
  share : ¬ ∃ job, ShareDue past quality code s job

/-- The law of the answer to a submission, from one studio to the next. -/
inductive Decided (past : List Entry) (quality : Quality) (code : String) (allowRetry : Bool)
    (s s' : Studio) : Submission → Prop
  | copied {job : Job} {id : String} {content : ByteArray}
      (due : CopyDue past quality code s id content) (done : job.status = .done)
      (fresh : ¬ s.jobs.Has job.id)
      (copy : s'.videos.video? s'.disk job.id = some content) :
      Decided past quality code allowRetry s s' (.cached job)
  | shared {job : Job} (due : ShareDue past quality code s job) :
      Decided past quality code allowRetry s s' (.inFlight job)
  | made {job : Job} (due : NewDue past quality code s) (fresh : ¬ s.jobs.Has job.id)
      (there : s'.jobs.Has job.id) :
      Decided past quality code allowRetry s s'
        (.enqueued job ⟨job.id, code, quality, allowRetry⟩)

section Deciding

variable {past : List Entry} {quality : Quality} {code : String} {s s' : Studio} {id : String}
  {job : Job}

/-- Nothing is known of an input that was never enqueued. -/
theorem NewDue.of_unknown (h : latest quality code past = none) : NewDue past quality code s := by
  refine ⟨?_, ?_⟩
  · rintro ⟨id, content, due⟩
    rw [due.latest] at h
    cases h
  · rintro ⟨job, due⟩
    rw [due.latest] at h
    cases h

/-- A new job is due if the known one is neither finished with a video nor in hand. -/
theorem NewDue.of_known (hlatest : latest quality code past = some id)
    (hjob : s.jobs.get id = .ok (some job))
    (hvideo : job.status = .done → s.videos.video? s.disk id = none)
    (hhand : job.status.isTerminal = false → inHand id past = false) :
    NewDue past quality code s := by
  refine ⟨?_, ?_⟩
  · rintro ⟨id', content, ⟨hlatest', ⟨job', hjob', hdone⟩, hfound⟩⟩
    obtain rfl : id = id' := Option.some.inj (hlatest.symm.trans hlatest')
    obtain rfl : job = job' := by simpa [hjob] using hjob'
    rw [hvideo hdone] at hfound
    cases hfound
  · rintro ⟨job', ⟨hlatest', hjob', hunfinished, hhand'⟩⟩
    obtain rfl : id = job'.id := Option.some.inj (hlatest.symm.trans hlatest')
    obtain rfl : job = job' := by simpa [hjob] using hjob'
    rw [hhand hunfinished] at hhand'
    cases hhand'

/-- A finished job is not to be shared. -/
theorem CopyDue.not_shareDue {content : ByteArray} (h : CopyDue past quality code s id content) :
    ¬ ∃ job, ShareDue past quality code s job := by
  rintro ⟨job, due⟩
  obtain ⟨job', hjob', hdone⟩ := h.done
  have hid : id = job.id := Option.some.inj (h.latest.symm.trans due.latest)
  rw [hid, due.record] at hjob'
  obtain rfl : job = job' := by simpa using hjob'
  have hunfinished := due.unfinished
  rw [hdone] at hunfinished
  cases hunfinished

/-- What is known in each stage of a submission in which nothing goes wrong. -/
def DecisionFact (crew : Crew) (past : List Entry) (quality : Quality) (code : String)
    (allowRetry : Bool) (start : Studio) : SubmitStage → Studio → Prop
  | .asked, s => s = start
  | .known id, s => s = start ∧ latest quality code past = some id
  | .doubtful job, s =>
    (∃ n, s = { start with counts.gets := n }) ∧ latest quality code past = some job.id ∧
      start.jobs.get job.id = .ok (some job) ∧ job.status.isTerminal = false
  | .finished job, s =>
    (∃ n, s = { start with counts.gets := n }) ∧ latest quality code past = some job.id ∧
      start.jobs.get job.id = .ok (some job) ∧ job.status = .done
  | .copying source, s =>
    (∃ n, s = { start with counts.gets := n }) ∧
      ∃ content, CopyDue past quality code start source content
  | .made source job, s =>
    Studio.IdsInOrder crew s ∧ s.videos = start.videos ∧ s.disk = start.disk ∧
      ¬ start.jobs.Has job.id ∧ s.jobs.Has job.id ∧
      ∃ content, CopyDue past quality code start source content
  | .copied job _, s =>
    Studio.IdsInOrder crew s ∧ ¬ start.jobs.Has job.id ∧ s.jobs.Has job.id ∧
      ∃ source content, CopyDue past quality code start source content ∧
        s.videos.video? s.disk job.id = some content
  | .vanished _, _ => False
  | .wanting, s => (∃ n, s = { start with counts.gets := n }) ∧ NewDue past quality code start
  | .created job, s | .taken job, s =>
    NewDue past quality code start ∧ ¬ start.jobs.Has job.id ∧ s.jobs.Has job.id
  | .answered answer, s =>
    ∃ submission, answer = .ok submission ∧
      Decided past quality code allowRetry start s submission

variable {crew : Crew} {start : Studio}

/-- What is known once the record of the known job is read. -/
theorem decisionFact_read {allowRetry : Bool} (hs : Studio.Remembers crew past start)
    (hlatest : latest quality code past = some id)
    (hreply : Studio.reply crew (.getJob id) start = (.ok (some job), s')) :
    DecisionFact crew past quality code allowRetry start (stageOfKnown job) s' := by
  obtain ⟨hcount, hfound⟩ := Studio.getJob_eq hreply
  have hget := hfound job rfl
  have hown : job.undated.id = id := hs.order.own id _ (JobStore.record?_of_get hget)
  obtain rfl : job.id = id := hown
  rw [stageOfKnown]
  split
  · next hdone => exact ⟨hcount, hlatest, hget, hdone⟩
  · next hdone =>
      split
      · next hterminal =>
          refine ⟨hcount, .of_known hlatest hget (fun h => absurd h hdone) fun h => ?_⟩
          rw [hterminal] at h
          cases h
      · next hunfinished =>
          exact ⟨hcount, hlatest, hget, Bool.eq_false_iff.mpr hunfinished⟩

/-- **Every turn of a submission in which nothing goes wrong tells what is due.** -/
theorem decisionFact_turn {allowRetry : Bool} {stage stage' : SubmitStage} {e : ServiceExchange}
    (hs : Studio.Remembers crew past start) (hfresh : Function.Injective crew.freshId)
    (hsure : ∀ n call, crew.storeFailure n call = none)
    (hdistinct : NoCollision past (renderCanonical quality code))
    (hturn : SubmitTurn code quality allowRetry stage e stage')
    (hexchange : e.isFaultless = true ∧ s.Replies crew e s')
    (h : DecisionFact crew past quality code allowRetry start stage s) :
    DecisionFact crew past quality code allowRetry start stage' s' := by
  obtain ⟨hfaultless, hreply⟩ := hexchange
  have hget : start.cache.get .render (inputPrint quality code) = latest quality code past := by
    rw [ResultCache.get_eq_remembered? hs.working]
    exact hs.recalled quality code hdistinct
  cases hturn with
  | unknown =>
      obtain rfl : s = start := h
      obtain ⟨hnone, rfl⟩ := Prod.mk.inj hreply
      exact ⟨⟨_, rfl⟩, .of_unknown (hget.symm.trans hnone)⟩
  | known id =>
      obtain rfl : s = start := h
      obtain ⟨hknown, rfl⟩ := Prod.mk.inj hreply
      exact ⟨rfl, hget.symm.trans hknown⟩
  | unread fault => cases hfaultless
  | missing =>
      obtain ⟨rfl, hlatest⟩ := h
      obtain ⟨e, he, task, htask, rfl⟩ := mem_of_latest hlatest
      exact absurd (hs.there e he task htask) (Studio.getJob_missing hsure hreply)
  | read job =>
      obtain ⟨rfl, hlatest⟩ := h
      exact decisionFact_read hs hlatest hreply
  | owned =>
      obtain ⟨⟨n, rfl⟩, hlatest, hjob, hunfinished⟩ := h
      obtain ⟨howned, rfl⟩ := Prod.mk.inj hreply
      have hmem := List.contains_iff_mem.mp howned
      exact ⟨_, rfl, .shared ⟨hlatest, hjob, hunfinished, (hs.owned _).mp hmem⟩⟩
  | foreign =>
      obtain ⟨⟨n, rfl⟩, hlatest, hjob, hunfinished⟩ := h
      obtain ⟨howned, rfl⟩ := Prod.mk.inj hreply
      refine ⟨⟨n, rfl⟩, .of_known hlatest hjob ?_ fun _ => ?_⟩
      · intro hdone
        rw [hdone] at hunfinished
        cases hunfinished
      · rw [Bool.eq_false_iff]
        intro hhand
        rw [← hs.owned, ← List.contains_iff_mem] at hhand
        rw [show List.contains _ _ = false from howned] at hhand
        cases hhand
  | unsought fault => cases hfaultless
  | lost =>
      obtain ⟨⟨n, rfl⟩, hlatest, hjob, hdone⟩ := h
      obtain ⟨hsought, rfl⟩ := Prod.mk.inj hreply
      refine ⟨⟨n, rfl⟩, .of_known hlatest hjob ?_ ?_⟩
      · intro _
        exact ArtifactStore.video?_of_get_eq_none hsought
      · intro hunfinished
        rw [hdone] at hunfinished
        cases hunfinished
  | seen path =>
      obtain ⟨⟨n, rfl⟩, hlatest, hjob, hdone⟩ := h
      obtain ⟨hsought, rfl⟩ := Prod.mk.inj hreply
      obtain ⟨-, content, hvideo⟩ := ArtifactStore.get_eq_some hsought
      exact ⟨⟨n, rfl⟩, content, hlatest, ⟨_, hjob, hdone⟩, hvideo⟩
  | unmade fault => cases hfaultless
  | made job =>
      obtain ⟨⟨n, rfl⟩, hdue⟩ := h
      have horder : Studio.IdsInOrder crew { start with counts.gets := n } :=
        ⟨hs.order.given, hs.order.own⟩
      obtain ⟨hvideos, hdisk, hnew, hthere⟩ := Studio.createJob_new hfresh horder hreply
      exact ⟨horder.reply hreply, hvideos, hdisk, hnew, hthere, hdue⟩
  | uncopied fault => cases hfaultless
  | vanished =>
      obtain ⟨-, hvideos, hdisk, -, -, content, hdue⟩ := h
      obtain ⟨hcloned, -⟩ := Prod.mk.inj hreply
      have hgone := ArtifactStore.clone_eq_none hcloned
      rw [hvideos, hdisk, hdue.video] at hgone
      cases hgone
  | @copied source job path =>
      obtain ⟨horder, hvideos, hdisk, hnew, hthere, content, hdue⟩ := h
      have horder' := horder.reply hreply
      have hthere' := Studio.reply_has hreply hthere
      obtain ⟨hcloned, rfl⟩ := Prod.mk.inj hreply
      have hother : source ≠ job.id := by
        rintro rfl
        obtain ⟨known, hknown, -⟩ := hdue.done
        exact hnew (JobStore.has_of_get hknown)
      obtain ⟨-, found, hfound, hcopy⟩ := ArtifactStore.clone_eq_some hcloned hother
      rw [hvideos, hdisk, hdue.video] at hfound
      obtain rfl := Option.some.inj hfound
      exact ⟨horder', hnew, hthere', source, content, hdue, hcopy⟩
  | discarded last => exact absurd h id
  | undiscarded unkept => exact absurd h id
  | @cached job path last =>
      obtain ⟨horder, hnew, -, source, content, hdue, hvideo⟩ := h
      obtain ⟨jobs, counts, record, rfl, -, -, hupdates⟩ := Studio.updateJob_eq hreply
      obtain ⟨old, hold, hlast⟩ := hupdates.answer
      have hown : old.id = job.id := horder.own _ old hold
      have hid : last.id = job.id := (congrArg Job.id hlast).trans hown
      have hdone : last.status = .done := congrArg Job.status hlast
      refine ⟨_, rfl, .copied hdue hdone ?_ ?_⟩
      · rw [hid]
        exact hnew
      · rw [hid]
        exact hvideo
  | @uncached job path reply fault unkept =>
      obtain ⟨-, -, hthere, -⟩ := h
      rcases reply with fault' | _ | last
      · cases hfaultless
      · exact absurd hthere (Studio.updateJob_missing hsure hreply)
      · cases unkept
  | uncreated fault => cases hfaultless
  | created job =>
      obtain ⟨⟨n, rfl⟩, hdue⟩ := h
      have horder : Studio.IdsInOrder crew { start with counts.gets := n } :=
        ⟨hs.order.given, hs.order.own⟩
      obtain ⟨-, -, hnew, hthere⟩ := Studio.createJob_new hfresh horder hreply
      exact ⟨hdue, hnew, hthere⟩
  | claimed =>
      obtain ⟨hdue, hnew, hthere⟩ := h
      exact ⟨hdue, hnew, Studio.reply_has hreply hthere⟩
  | remembered =>
      obtain ⟨hdue, hnew, hthere⟩ := h
      exact ⟨_, rfl, .made hdue hnew (Studio.reply_has hreply hthere)⟩

/-- A submission in which nothing goes wrong has an answer, and the answer is what is due. -/
theorem decided_of_faultless {allowRetry : Bool} (hs : Studio.Remembers crew past s)
    (hfresh : Function.Injective crew.freshId) (hsure : ∀ n call, crew.storeFailure n call = none)
    (hdistinct : NoCollision past (renderCanonical quality code))
    (hfaultless : ∀ e ∈ s.exchanges crew (submit code quality allowRetry).run,
      e.isFaultless = true) :
    ∃ submission s', s.runPlan crew (submit code quality allowRetry).run = (.ok submission, s') ∧
      Decided past quality code allowRetry s s' submission := by
  rcases hrun : s.runPlan crew (submit code quality allowRetry).run with ⟨answer, s'⟩
  have hruns := runs_run_of_transcript hfaultless
  change (submit code quality allowRetry).run.run (Studio.reply crew) s = _ at hrun
  rw [hrun] at hruns
  have hend : ∃ stage, SubmitEnd stage answer ∧
      DecisionFact crew past quality code allowRetry s stage s' :=
    (follows_submit code quality allowRetry).run hruns rfl
      (decisionFact_turn hs hfresh hsure hdistinct)
  obtain ⟨_, rfl, submission, rfl, hdecided⟩ := hend
  exact ⟨submission, s', rfl, hdecided⟩

end Deciding

/-- The law in full: which answer is given when, and what comes with it. -/
structure DecisionLaw (past : List Entry) (quality : Quality) (code : String) (allowRetry : Bool)
    (s s' : Studio) (submission : Submission) : Prop where
  /-- A copy is the answer if and only if one is due. -/
  cached_iff : (∃ job, submission = .cached job) ↔
    ∃ id content, CopyDue past quality code s id content
  /-- The copy is a new job that is done, and it has the video that was due. -/
  copy : ∀ job, submission = .cached job → job.status = .done ∧ ¬ s.jobs.Has job.id ∧
    ∃ id content, CopyDue past quality code s id content ∧
      s'.videos.video? s'.disk job.id = some content
  /-- A job in hand is the answer if and only if it is to be shared. -/
  inFlight_iff : ∀ job, submission = .inFlight job ↔ ShareDue past quality code s job
  /-- A task is the answer if and only if a new job is due. -/
  enqueued_iff : (∃ job task, submission = .enqueued job task) ↔ NewDue past quality code s
  /-- The job of the task is new, and from now on it is the last one for the input. -/
  newest : ∀ job task, submission = .enqueued job task →
    ¬ s.jobs.Has job.id ∧ s'.jobs.Has job.id ∧ task = ⟨job.id, code, quality, allowRetry⟩ ∧
      latest quality code
        (⟨.submitted code quality allowRetry (.ok submission), s, s'⟩ :: past) = some job.id

/-- Two jobs are not both to be shared. -/
theorem ShareDue.unique {past : List Entry} {quality : Quality} {code : String} {s : Studio}
    {job job' : Job} (h : ShareDue past quality code s job)
    (h' : ShareDue past quality code s job') : job = job' := by
  have hid : job.id = job'.id := Option.some.inj (h.latest.symm.trans h'.latest)
  have hrecord := h'.record
  rw [← hid, h.record] at hrecord
  simpa using hrecord

/-- What is decided is the law, as no two of the three cases go together. -/
theorem Decided.law {past : List Entry} {quality : Quality} {code : String} {allowRetry : Bool}
    {s s' : Studio} {submission : Submission}
    (h : Decided past quality code allowRetry s s' submission) :
    DecisionLaw past quality code allowRetry s s' submission := by
  cases h with
  | @copied job id content due done fresh copy =>
      refine ⟨iff_of_true ⟨job, rfl⟩ ⟨id, content, due⟩, ?_, fun job' => iff_of_false ?_ ?_,
        iff_of_false (by rintro ⟨_, _, ⟨⟩⟩) fun new => new.copy ⟨id, content, due⟩, ?_⟩
      · rintro _ ⟨⟩
        exact ⟨done, fresh, id, content, due, copy⟩
      · rintro ⟨⟩
      · exact fun share => due.not_shareDue ⟨job', share⟩
      · rintro _ _ ⟨⟩
  | @shared job due =>
      refine ⟨iff_of_false (by rintro ⟨_, ⟨⟩⟩) ?_, ?_, ?_,
        iff_of_false (by rintro ⟨_, _, ⟨⟩⟩) fun new => new.share ⟨job, due⟩, ?_⟩
      · rintro ⟨id, content, copy⟩
        exact copy.not_shareDue ⟨job, due⟩
      · rintro _ ⟨⟩
      · intro job'
        constructor
        · rintro ⟨⟩
          exact due
        · intro due'
          rw [due.unique due']
      · rintro _ _ ⟨⟩
  | @made job due fresh there =>
      refine ⟨iff_of_false (by rintro ⟨_, ⟨⟩⟩) due.copy, ?_,
        fun job' => iff_of_false (by rintro ⟨⟩) fun share => due.share ⟨job', share⟩,
        iff_of_true ⟨_, _, rfl⟩ due, ?_⟩
      · rintro _ ⟨⟩
      · rintro _ _ ⟨⟩
        exact ⟨fresh, there, rfl, by simp [latest, Deed.enqueued?]⟩

/-- **The decision law.**  Take a new studio with a working cache and a job store whose calls
do not go wrong, and any chronicle of it: code is submitted, tasks are worked off, any
number of times and with any outcome, jobs are given up, videos are deleted, and the
service is started anew.  Then code is submitted once more; no other input that was ever
submitted has its digest, and no reply to this submission is a fault.  The answer is a
copy if and only if the job that was enqueued last for this very input is done and its
video is there; it is that job if and only if the job is unfinished and in hand; and
otherwise it is a new job, which becomes the last one. -/
theorem submission_decided {crew : Crew} {allowed : List Entry → Deed → Prop} {start s : Studio}
    {past : List Entry} (hstart : start.IsNew) (hworking : start.cache.store.refusal = none)
    (hfresh : Function.Injective crew.freshId) (hsure : ∀ n call, crew.storeFailure n call = none)
    (h : Chronicle (Studio.Replies crew) allowed start past s) {code : String} {quality : Quality}
    {allowRetry : Bool} (hdistinct : NoCollision past (renderCanonical quality code))
    (hfaultless : ∀ e ∈ s.exchanges crew (submit code quality allowRetry).run,
      e.isFaultless = true) :
    ∃ submission s', s.runPlan crew (submit code quality allowRetry).run = (.ok submission, s') ∧
      DecisionLaw past quality code allowRetry s s' submission := by
  have hs := remembers_chronicle hstart hworking h
  obtain ⟨submission, s', hrun, hdecided⟩ :=
    decided_of_faultless hs hfresh hsure hdistinct hfaultless
  exact ⟨submission, s', hrun, hdecided.law⟩

/-- The copy that a submission is answered with. -/
def copyAnswered? : Except PipelineFault Submission → Option Job
  | .ok (.cached copy) => some copy
  | _ => none

/-- A copy is answered with as a cached job. -/
theorem answer_of_copyAnswered? {answer : Except PipelineFault Submission} {copy : Job}
    (h : copyAnswered? answer = some copy) : answer = .ok (.cached copy) := by
  unfold copyAnswered? at h
  split at h
  · rw [Option.some.inj h]
  · cases h

/-- What the scene comes to when it is submitted once more after the rehearsal: the video of the
latest job with its input is there, and a copy of it is made that is done. -/
theorem film_resubmitted :
    ((∀ e ∈ filmedStudio.exchanges filmCrew (submit emptyScene .low false).run,
        e.isFaultless = true) ∧
      (∃ content, filmedStudio.videos.video? filmedStudio.disk "a" = some content) ∧
      latest .low emptyScene filmPast = some "a") ∧
    (submit emptyScene .low false).run.holdsAlong (Studio.reply filmCrew)
        (Studio.keepsPromise filmCrew) filmedStudio = true ∧
      (∃ copy, copyAnswered? (filmSubmitted filmedStudio).1 = some copy ∧ copy.id = "aa") ∧
      (∃ record, (filmSubmitted filmedStudio).2.jobs.record? "aa" = some record ∧
        record.status = .done) ∧
      ∃ content, (filmSubmitted filmedStudio).2.videos.video? (filmSubmitted filmedStudio).2.disk
        "aa" = some content := by
  -- one evaluation of the run tells all that is needed of it
  have hrun : (((filmedStudio.exchanges filmCrew (submit emptyScene .low false).run).all
          ServiceExchange.isFaultless &&
        ((filmedStudio.videos.video? filmedStudio.disk "a").isSome &&
          latest .low emptyScene filmPast == some "a")) &&
      ((submit emptyScene .low false).run.holdsAlong (Studio.reply filmCrew)
          (Studio.keepsPromise filmCrew) filmedStudio &&
        (((copyAnswered? (filmSubmitted filmedStudio).1).any fun copy => copy.id == "aa") &&
          ((((filmSubmitted filmedStudio).2.jobs.record? "aa").any fun job =>
              job.status == .done) &&
            ((filmSubmitted filmedStudio).2.videos.video?
              (filmSubmitted filmedStudio).2.disk "aa").isSome)))) = true := by
    decide +kernel
  simpa only [Bool.and_eq_true, List.all_eq_true, Option.any_eq_true, Option.isSome_iff_exists,
    beq_iff_eq] using hrun

/-- After the rehearsal a copy of the video is due, so that the scene, submitted once more, is
answered with one. -/
theorem rehearsed_submission_decided :
    ∃ job s', filmSubmitted filmedStudio = (.ok (.cached job), s') ∧
      DecisionLaw filmPast .low emptyScene false filmedStudio s' (.cached job) := by
  have hchronicle : Chronicle (Studio.Replies filmCrew) (fun _ _ => True) filmStudio filmPast
      filmedStudio :=
    filmPast_chronicle (fun _ _ _ _ h => h) trivial trivial
  have hdistinct : NoCollision filmPast (renderCanonical .low emptyScene) :=
    fun e he text htext _ => text_of_filmPast he htext
  obtain ⟨⟨hfaultless, ⟨content, hcontent⟩, hlatest⟩, -⟩ := film_resubmitted
  obtain ⟨-, -, record, hrecord, hdone⟩ := film_rehearsed
  obtain ⟨submission, s', hanswer, law⟩ := submission_decided filmStudio_isNew rfl
    letterId_injective (fun _ _ => rfl) hchronicle hdistinct hfaultless
  obtain ⟨source, hsource, rfl⟩ := JobStore.get_of_record? hrecord
  obtain ⟨job, rfl⟩ := law.cached_iff.mpr
    ⟨"a", content, hlatest, ⟨source, hsource, hdone⟩, hcontent⟩
  exact ⟨job, s', hanswer, law⟩

end SceneRender
