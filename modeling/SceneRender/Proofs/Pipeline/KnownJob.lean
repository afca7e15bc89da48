import SceneRender.Proofs.Pipeline.Chronicle
import SceneRender.Proofs.Pipeline.Exchanges

/-!
# The job that is known for an input

Once a submission remembers its job, this job is the known one of the input, and the stage
of the work at its task tells how it stands: as long as the work is under way the job is
open and owned, and afterwards it is done and has its video, or it failed and was never
rendered.

`stands_turn` says that the work leads the job on, if stores and renderer do what they are
asked for.  `relies_turn` says that another submission leaves the job where it stands and
needs no new one, unless it finds that the job failed, as far as it may rely on what it has
seen: the record and the owned jobs are looked at one after the other, and in between the
work may go on.  `begins_turn` is the way of a submission that needs a new job to the job
that is known next.
-/

namespace SceneRender

open Plan Pipeline ServiceExchange

/-- The task that an answer returns. -/
def taskOf : Except PipelineFault Submission → Option RenderTask
  | .ok (.enqueued _ task) => some task
  | .ok (.cached _) | .ok (.inFlight _) | .error _ => none

/-! ## What is asked of an exchange -/

namespace ServiceExchange

/-- A render is successful. -/
def isFilmed : ServiceExchange → Bool
  | ⟨.render _ _ _, (outcome : RenderOutcome)⟩ =>
    match outcome with
    | .success _ => true
    | .timeout | .failure _ => false
  | _ => true

/-- The record that is read says that the job ended with an error. -/
def findsFailed : ServiceExchange → Bool
  | ⟨.getJob _, (reply : JobReply)⟩ =>
    match reply with
    | .ok (some job) => job.status.isTerminal && job.status != .done
    | .ok none | .error _ => false
  | _ => false

end ServiceExchange

/-! ## The known job -/

section Known

variable {crew : Crew} {print id : String} {renders : Nat} {s s' : Studio} {stage : WorkStage}

/-- The record of a job, if it can be read, is unfinished. -/
def Studio.IsOpen (s : Studio) (id : String) : Prop :=
  ∀ job, s.jobs.record? id = some job → job.status.isTerminal = false

/-- The record of a job, if it can be read, says that it is done. -/
def Studio.IsClosed (s : Studio) (id : String) : Prop :=
  ∀ job, s.jobs.record? id = some job → job.status = .done

/-- The record of a job, if it can be read, says that it ended with an error. -/
def Studio.IsFailed (s : Studio) (id : String) : Prop :=
  ∀ job, s.jobs.record? id = some job → job.status.isTerminal = true ∧ job.status ≠ .done

/-- The video of a job is there. -/
def Studio.HasVideo (s : Studio) (id : String) : Prop :=
  ∃ content, s.videos.video? s.disk id = some content

/-- How a job ended, after how many renders of other ones: it is done and has its video, or
it failed and was never rendered. -/
inductive Studio.Ended (s : Studio) (id : String) (renders : Nat) : Prop
  | done (closed : s.IsClosed id) (rendered : s.record.rendered.length = renders + 1)
      (video : s.HasVideo id)
  | failed (failed : s.IsFailed id) (rendered : s.record.rendered.length = renders)

/-- A job is remembered for the input. -/
structure Known (crew : Crew) (print id : String) (s : Studio) : Prop where
  order : Studio.IdsInOrder crew s
  working : s.cache.store.refusal = none
  recalled : s.cache.remembered? .render print = some id
  there : s.jobs.Has id

/-- How the known job stands in each stage of the work at its task, after how many renders. -/
def Stands (id : String) (renders : Nat) : WorkStage → Studio → Prop
  | .begun, s | .live _, s =>
    id ∈ s.owned ∧ s.IsOpen id ∧ s.record.rendered.length = renders
  | .filmed path, s =>
    id ∈ s.owned ∧ s.IsOpen id ∧ s.record.rendered.length = renders + 1 ∧
      s.videos.holds s.disk path = false
  | .stored _, s =>
    id ∈ s.owned ∧ s.IsOpen id ∧ s.record.rendered.length = renders + 1 ∧ s.HasVideo id
  | .settled, s => id ∈ s.owned ∧ s.Ended id renders
  | .complete, s => id ∉ s.owned ∧ s.Ended id renders
  | .unstored, _ | .lost, _ | .cleaning, _ | .doubted, _ => False

/-- The work is so far that the record says how the job ended. -/
def IsSettled : WorkStage → Prop
  | .settled | .complete => True
  | _ => False

/-- A job that came to its end was rendered once at most. -/
theorem Studio.Ended.rendered (h : s.Ended id renders) :
    s.record.rendered.length ≤ renders + 1 := by
  cases h with
  | done closed rendered video => exact Nat.le_of_eq rendered
  | failed failed rendered => exact Nat.le_succ_of_le (Nat.le_of_eq rendered)

/-- No more than one render is made for a job. -/
theorem Stands.rendered (h : Stands id renders stage s) :
    s.record.rendered.length ≤ renders + 1 := by
  cases stage with
  | begun => exact Nat.le_succ_of_le (Nat.le_of_eq h.2.2)
  | live progress => exact Nat.le_succ_of_le (Nat.le_of_eq h.2.2)
  | filmed path => exact Nat.le_of_eq h.2.2.1
  | stored target => exact Nat.le_of_eq h.2.2.1
  | settled => exact h.2.rendered
  | complete => exact h.2.rendered
  | _ => exact h.elim

/-- Until its work is over the job is owned. -/
theorem Stands.owned (h : Stands id renders stage s) (hover : stage ≠ .complete) : id ∈ s.owned := by
  cases stage with
  | complete => exact absurd rfl hover
  | unstored => exact h.elim
  | lost => exact h.elim
  | cleaning => exact h.elim
  | doubted => exact h.elim
  | _ => exact h.1

/-- What the record says of a job that ended. -/
theorem Studio.Ended.record (h : s.Ended id renders) {job : Job}
    (hjob : s.jobs.record? id = some job) :
    job.status = .done ∧ s.HasVideo id ∨
      (job.status.isTerminal = true ∧ job.status ≠ .done) ∧
        s.record.rendered.length = renders := by
  cases h with
  | done closed rendered video => exact Or.inl ⟨closed job hjob, video⟩
  | failed failed rendered => exact Or.inr ⟨failed job hjob, rendered⟩

/-- What the record says of the work. -/
theorem Stands.record (h : Stands id renders stage s) {job : Job}
    (hjob : s.jobs.record? id = some job) :
    IsSettled stage ∧ (job.status = .done ∧ s.HasVideo id ∨
      (job.status.isTerminal = true ∧ job.status ≠ .done) ∧
        s.record.rendered.length = renders) ∨
      job.status.isTerminal = false ∧ stage ≠ .complete := by
  cases stage with
  | begun => exact Or.inr ⟨h.2.1 job hjob, nofun⟩
  | live progress => exact Or.inr ⟨h.2.1 job hjob, nofun⟩
  | filmed path => exact Or.inr ⟨h.2.1 job hjob, nofun⟩
  | stored target => exact Or.inr ⟨h.2.1 job hjob, nofun⟩
  | settled => exact Or.inl ⟨trivial, h.2.record hjob⟩
  | complete => exact Or.inl ⟨trivial, h.2.record hjob⟩
  | _ => exact h.elim

/-- Nothing changes on which it depends how a job stands. -/
structure Studio.Spares (id : String) (s s' : Studio) : Prop where
  owned : id ∈ s'.owned ↔ id ∈ s.owned
  record : s'.jobs.record? id = s.jobs.record? id
  holds : ∀ path, s'.videos.holds s'.disk path = s.videos.holds s.disk path
  video : s.HasVideo id → s'.HasVideo id
  rendered : s'.record.rendered = s.record.rendered

/-- Whatever leaves the owned jobs, the record, the video and the count of renders as they
are, spares the job. -/
theorem Studio.Spares.of_steady (howned : id ∈ s'.owned ↔ id ∈ s.owned)
    (hrecord : s'.jobs.record? id = s.jobs.record? id) (hvideos : s'.videos = s.videos)
    {changed : Disk.Place → Prop} (hsteady : Disk.Steady changed s.disk s'.disk)
    (hplace : ¬ changed (s.videos.place s.disk id))
    (hrendered : s'.record.rendered = s.record.rendered) : s.Spares id s' where
  owned := howned
  record := hrecord
  holds path := by rw [hvideos, ArtifactStore.holds_steady hsteady]
  video := by
    rintro ⟨content, hcontent⟩
    refine ⟨content, ?_⟩
    rw [hvideos]
    exact ArtifactStore.video?_steady hsteady hplace hcontent
  rendered := hrendered

/-- A job that is spared stays where it stands. -/
theorem Stands.spared (h : Stands id renders stage s) (hspares : s.Spares id s') :
    Stands id renders stage s' := by
  have hopen : s.IsOpen id → s'.IsOpen id := fun h job hjob => h job (hspares.record ▸ hjob)
  have hended : s.Ended id renders → s'.Ended id renders := by
    intro hended
    cases hended with
    | done closed rendered video =>
        exact .done (fun job hjob => closed job (hspares.record ▸ hjob))
          (hspares.rendered ▸ rendered) (hspares.video video)
    | failed failed rendered =>
        exact .failed (fun job hjob => failed job (hspares.record ▸ hjob))
          (hspares.rendered ▸ rendered)
  cases stage <;> simp only [Stands, hspares.owned, hspares.rendered, hspares.holds] at h ⊢
  · exact ⟨h.1, hopen h.2.1, h.2.2⟩
  · exact ⟨h.1, hopen h.2.1, h.2.2⟩
  · exact ⟨h.1, hopen h.2.1, h.2.2⟩
  · exact ⟨h.1, hopen h.2.1, h.2.2.1, hspares.video h.2.2.2⟩
  · exact ⟨h.1, hended h.2⟩
  · exact ⟨h.1, hended h.2⟩

/-- A question that leaves the cache alone leaves the known job known. -/
theorem Known.keep (h : Known crew print id s) {q : ServiceQuestion} {r : q.Reply}
    (hreply : Studio.reply crew q s = (r, s')) (hcache : s'.cache = s.cache) :
    Known crew print id s' where
  order := h.order.reply hreply
  working := by
    rw [hcache]
    exact h.working
  recalled := by
    rw [hcache]
    exact h.recalled
  there := Studio.reply_has hreply h.there

/-- Does a question leave the cache alone, and the record and the video of a job, and does it
neither let the job go nor render it? -/
def ServiceQuestion.spares (id : String) : ServiceQuestion → Bool
  | .createJob | .getJob _ | .lookUp .. | .findVideo _ | .owns _ => true
  | .updateJob id' _ | .release id' => id' != id
  | .cloneVideo _ target => target != id
  | _ => false

/-- To let another job go spares the job. -/
theorem spares_release {freed : String} (hother : some id ≠ some freed) :
    (ServiceQuestion.release freed).spares id = true :=
  bne_iff_ne.mpr fun heq => hother (congrArg some heq.symm)

/-- A question that spares the known job leaves it where it stands. -/
theorem Known.spared (hknown : Known crew print id s) (hfresh : Function.Injective crew.freshId)
    {q : ServiceQuestion} {r : q.Reply} (hreply : Studio.reply crew q s = (r, s'))
    (hspares : q.spares id = true) : Known crew print id s' ∧ s.Spares id s' := by
  have hstill := Disk.Steady.refl (fun _ => False) s.disk
  cases q with
  | createJob =>
      have hnew := hknown.order.next_new hfresh
      have hk := hknown.keep hreply
      obtain ⟨jobs, counts, record, rfl, hrendered, -, -, hcreates⟩ := Studio.createJob_eq hreply
      refine ⟨hk rfl, .of_steady Iff.rfl ?_ rfl hstill not_false hrendered⟩
      cases hcreates with
      | refused fault => rfl
      | made fresh has new others =>
          refine JobStore.record?_congr (others id ?_)
          rintro rfl
          exact hnew hknown.there
  | updateJob id' u =>
      have hother : id' ≠ id := by simpa [ServiceQuestion.spares] using hspares
      have hk := hknown.keep hreply
      obtain ⟨jobs, counts, record, rfl, -, hrendered, hupdates⟩ := Studio.updateJob_eq hreply
      refine ⟨hk rfl, .of_steady Iff.rfl ?_ rfl hstill not_false hrendered⟩
      cases hupdates with
      | unkept => rfl
      | kept found new has record others => exact JobStore.record?_congr (others id hother.symm)
  | cloneVideo source target =>
      have hother : target ≠ id := by simpa [ServiceQuestion.spares] using hspares
      have hk := hknown.keep hreply
      cases hreply
      refine ⟨hk rfl, .of_steady Iff.rfl rfl rfl (s.videos.steady_clone s.disk source target) ?_ rfl⟩
      exact fun hplace => hother (ArtifactStore.place_inj hplace).symm
  | release id' =>
      have hother : id' ≠ id := by simpa [ServiceQuestion.spares] using hspares
      have hk := hknown.keep hreply
      obtain rfl := (Prod.mk.inj hreply).2
      refine ⟨hk rfl, .of_steady ?_ rfl rfl hstill not_false rfl⟩
      simp [List.mem_filter, hother.symm]
  | getJob id' =>
      have hk := hknown.keep hreply
      obtain ⟨⟨n, rfl⟩, -⟩ := Studio.getJob_eq hreply
      exact ⟨hk rfl, .of_steady Iff.rfl rfl rfl hstill not_false rfl⟩
  | lookUp ns print' =>
      obtain rfl := (Prod.mk.inj hreply).2
      exact ⟨hknown, .of_steady Iff.rfl rfl rfl hstill not_false rfl⟩
  | findVideo id' =>
      obtain rfl := (Prod.mk.inj hreply).2
      exact ⟨hknown, .of_steady Iff.rfl rfl rfl hstill not_false rfl⟩
  | owns id' =>
      obtain rfl := (Prod.mk.inj hreply).2
      exact ⟨hknown, .of_steady Iff.rfl rfl rfl hstill not_false rfl⟩
  | _ => cases hspares

/-! ## The work at the task of the known job -/

/-- An update of a job that is there is kept, unless the store refuses it. -/
theorem kept_of_faultless (hsure : ∀ n call, crew.storeFailure n call = none)
    {u : JobUpdate} {reply : JobReply} (hfaultless : (jobUpdated id u reply).isFaultless = true)
    (hreply : Studio.reply crew (.updateJob id u) s = (reply, s')) (hthere : s.jobs.Has id) :
    Kept reply := by
  rcases reply with fault | _ | job
  · cases hfaultless
  · exact absurd hthere (Studio.updateJob_missing hsure hreply)
  · exact ⟨job, rfl⟩

/-- A kept update of a job writes its record and nothing else. -/
theorem Studio.updateJob_kept {u : JobUpdate} {reply : JobReply}
    (hreply : Studio.reply crew (.updateJob id u) s = (reply, s')) (hkept : Kept reply) :
    s'.owned = s.owned ∧ s'.cache = s.cache ∧ s'.videos = s.videos ∧ s'.disk = s.disk ∧
      s'.record.rendered = s.record.rendered ∧
      ∀ job, s'.jobs.record? id = some job → ∃ old : Job, job = old.apply u .epoch := by
  obtain ⟨jobs, counts, record, rfl, -, hrendered, hupdates⟩ := Studio.updateJob_eq hreply
  refine ⟨rfl, rfl, rfl, rfl, hrendered, ?_⟩
  cases hupdates with
  | unkept unkept => exact absurd hkept unkept
  | kept found new has record others => exact fun job hjob => ⟨_, record job hjob⟩

/-- What is asked of an exchange in a smooth rush. -/
structure GoesWell (crew : Crew) (s : Studio) (e : ServiceExchange) : Prop where
  faultless : e.isFaultless = true
  filmed : e.isFilmed = true
  promise : s.keepsPromise crew e.question = true

/-- **Every turn of the work leads the known job on.** -/
theorem stands_turn {task : RenderTask} {stage' : WorkStage} {e : ServiceExchange}
    (hsure : ∀ n call, crew.storeFailure n call = none) (hgood : GoesWell crew s e)
    (hturn : WorkTurn task stage e stage') (hreplies : s.Replies crew e s')
    (hknown : Known crew print task.jobId s) (h : Stands task.jobId renders stage s) :
    Known crew print task.jobId s' ∧ Stands task.jobId renders stage' s' := by
  have hreply := hreplies
  rw [Studio.Replies] at hreply
  have hkeep := hknown.keep hreply
  cases hturn with
  | unseen fault => cases hgood.faultless
  | missing => exact absurd hknown.there (Studio.getJob_missing hsure hreply)
  | @closed job terminal =>
      obtain ⟨-, hfound⟩ := Studio.getJob_eq hreply
      have hopen := h.2.1 _ (JobStore.record?_of_get (hfound job rfl))
      rw [show job.undated.status.isTerminal = true from terminal] at hopen
      cases hopen
  | found unfinished =>
      obtain ⟨⟨n, rfl⟩, -⟩ := Studio.getJob_eq hreply
      exact ⟨hkeep rfl, h⟩
  | moved moves =>
      obtain ⟨howned, hcache, -, -, hrendered, hrecord⟩ := Studio.updateJob_kept hreply ⟨_, rfl⟩
      obtain ⟨status, hstatus, hlive⟩ := moves.status
      refine ⟨hkeep hcache, howned ▸ h.1, ?_, hrendered ▸ h.2.2⟩
      intro job hjob
      obtain ⟨old, rfl⟩ := hrecord job hjob
      simp only [Job.apply, hstatus, Option.getD_some, hlive]
  | stuck moves unkept => exact absurd (kept_of_faultless hsure hgood.faultless hreply hknown.there) unkept
  | filmed =>
      obtain ⟨refusal, hs', -, hpath⟩ :=
        Studio.serves_render (Studio.serves_of_replies hgood.promise hreplies)
      obtain ⟨houtside, -⟩ := hpath _ rfl
      have hvideos : s'.videos = s.videos := by rw [hs']; rfl
      have howned : s'.owned = s.owned := by rw [hs']; rfl
      have hjobs : s'.jobs = s.jobs := by rw [hs']; rfl
      refine ⟨hkeep (Studio.reply_quiet hreply rfl).1, ?_, ?_, ?_, ?_⟩
      · rw [howned]
        exact h.1
      · rw [Studio.IsOpen, hjobs]
        exact h.2.1
      · rw [hs']
        exact congrArg Nat.succ h.2.2
      · rw [hvideos]
        exact houtside
  | @unfilmed progress code outcome failed =>
      rcases outcome with path | _ | diagnostic
      · exact absurd rfl (failed path)
      · cases hgood.filmed
      · cases hgood.filmed
  | repaired =>
      cases hreply
      exact ⟨hkeep rfl, h⟩
  | ended bad =>
      obtain ⟨howned, hcache, -, -, hrendered, hrecord⟩ := Studio.updateJob_kept hreply ⟨_, rfl⟩
      refine ⟨hkeep hcache, howned ▸ h.1, .failed ?_ (hrendered ▸ h.2.2)⟩
      intro job hjob
      obtain ⟨old, rfl⟩ := hrecord job hjob
      rcases bad with rfl | rfl
      all_goals
        refine ⟨rfl, fun hdone => ?_⟩
        cases hdone
  | unended bad unkept =>
      exact absurd (kept_of_faultless hsure hgood.faultless hreply hknown.there) unkept
  | stored =>
      obtain ⟨howned, hopen, hrendered, houtside⟩ := h
      obtain ⟨hput, rfl⟩ := Prod.mk.inj hreply
      obtain ⟨-, content, -, hvideo⟩ := ArtifactStore.put_eq_ok hput houtside
      exact ⟨hkeep rfl, howned, hopen, hrendered, content, hvideo⟩
  | unstored => cases hgood.faultless
  | finished =>
      obtain ⟨howned, -, hrendered, hvideo⟩ := h
      obtain ⟨howned', hcache, hvideos, hdisk, hrendered', hrecord⟩ :=
        Studio.updateJob_kept hreply ⟨_, rfl⟩
      refine ⟨hkeep hcache, howned' ▸ howned, .done ?_ (hrendered' ▸ hrendered) ?_⟩
      · intro job hjob
        obtain ⟨old, rfl⟩ := hrecord job hjob
        rfl
      · rw [Studio.HasVideo, hvideos, hdisk]
        exact hvideo
  | unfinished unkept => exact absurd (kept_of_faultless hsure hgood.faultless hreply hknown.there) unkept
  | failed => exact h.elim
  | released =>
      obtain ⟨-, hended⟩ := h
      obtain rfl := (Prod.mk.inj hreply).2
      refine ⟨hkeep rfl, by simp [List.mem_filter], ?_⟩
      cases hended with
      | done closed rendered video => exact .done closed rendered video
      | failed failed rendered => exact .failed failed rendered
  | dropped => exact h.elim
  | clean closed => exact h.elim
  | doubted unfinished => exact h.elim
  | cleaned => exact h.elim

/-- Work that is settled only lets its job go. -/
theorem released_of_settled {task : RenderTask} {stage' : WorkStage} {e : ServiceExchange}
    (hturn : WorkTurn task stage e stage') (h : IsSettled stage) :
    e = released task.jobId ∧ stage' = .complete := by
  cases hturn with
  | released => exact ⟨rfl, rfl⟩
  | _ => exact h.elim

/-- Settled work goes on without a change to the videos. -/
theorem video_turn {task : RenderTask} {stage' : WorkStage} {e : ServiceExchange}
    (hturn : WorkTurn task stage e stage') (hreplies : s.Replies crew e s') (h : IsSettled stage) :
    IsSettled stage' ∧ (s.HasVideo id → s'.HasVideo id) := by
  obtain ⟨rfl, rfl⟩ := released_of_settled hturn h
  obtain rfl := (Prod.mk.inj hreplies).2
  exact ⟨trivial, fun hvideo => hvideo⟩

/-- When the job of the work is let go, the work is over. -/
theorem complete_of_release {task : RenderTask} {stage' : WorkStage} {e : ServiceExchange}
    {freed : String} (hturn : WorkTurn task stage e stage') (h : Stands id renders stage s)
    (hrelease : e.question = .release freed) : stage' = .complete := by
  cases hturn with
  | released => rfl
  | dropped => exact h.elim
  | _ => cases hrelease

/-- The work is over only when the job is let go. -/
theorem released_of_complete {task : RenderTask} {stage' : WorkStage} {e : ServiceExchange}
    (hturn : WorkTurn task stage e stage') (h : Stands id renders stage s)
    (hover : stage' = .complete) : e = released task.jobId := by
  cases hturn with
  | released => rfl
  | clean closed => exact h.elim
  | cleaned => exact h.elim
  | _ => cases hover

/-! ## A submission once a job is known -/

/-- What a submission relies on in each of its stages, once a job is known: how far the work at
the task of the job must be at least, or at most, and that its video is there. -/
def Relies (id : String) (work : WorkStage) (s : Studio) : SubmitStage → Prop
  | .asked => True
  | .known id' => id' = id
  | .doubtful job => job.id = id ∧ work ≠ .complete
  | .finished job => job.id = id ∧ IsSettled work ∧ s.HasVideo id
  | .copying source => source = id ∧ IsSettled work ∧ s.HasVideo id
  | .made source job => (source = id ∧ IsSettled work ∧ s.HasVideo id) ∧ job.id ≠ id
  | .copied job _ => job.id ≠ id
  | .vanished _ | .wanting | .created _ | .taken _ => False
  | .answered answer => taskOf answer = none

/-- What goes on elsewhere leaves a submission what it relies on, unless the job is let go that
the submission is about to test. -/
theorem Relies.later {work work' : WorkStage} {stage : SubmitStage} (h : Relies id work s stage)
    (hsettled : IsSettled work → IsSettled work' ∧ (s.HasVideo id → s'.HasVideo id))
    (hover : ∀ job, stage = .doubtful job → work ≠ .complete → work' ≠ .complete) :
    Relies id work' s' stage := by
  cases stage with
  | doubtful job => exact ⟨h.1, hover job rfl h.2⟩
  | finished job => exact ⟨h.1, (hsettled h.2.1).1, (hsettled h.2.1).2 h.2.2⟩
  | copying source => exact ⟨h.1, (hsettled h.2.1).1, (hsettled h.2.1).2 h.2.2⟩
  | made source job =>
      obtain ⟨⟨hsource, hwork, hvideo⟩, hother⟩ := h
      exact ⟨⟨hsource, (hsettled hwork).1, (hsettled hwork).2 hvideo⟩, hother⟩
  | _ => exact h

/-- What is there before a submission makes its new job. -/
structure Ready (crew : Crew) (renders : Nat) (s : Studio) : Prop where
  order : Studio.IdsInOrder crew s
  working : s.cache.store.refusal = none
  rendered : s.record.rendered.length = renders

/-- **Every turn of a submission leaves the known job where it stands**, and returns no task,
unless the submission finds that the job failed: then it needs a new one. -/
theorem relies_turn {code : String} {quality : Quality} {allowRetry : Bool}
    {stage stage' : SubmitStage} {e : ServiceExchange} {work : WorkStage}
    (hfresh : Function.Injective crew.freshId) (hsure : ∀ n call, crew.storeFailure n call = none)
    (hfaultless : e.isFaultless = true) (hturn : SubmitTurn code quality allowRetry stage e stage')
    (hreply : s.Replies crew e s') (hknown : Known crew (inputPrint quality code) id s)
    (hstands : Stands id renders work s) (h : Relies id work s stage) :
    Known crew (inputPrint quality code) id s' ∧
      (e.findsFailed = false ∧ Stands id renders work s' ∧ Relies id work s' stage' ∨
        e.findsFailed = true ∧ stage' = .wanting ∧ IsSettled work ∧
          s'.record.rendered.length = renders) := by
  rw [Studio.Replies] at hreply
  have hget : s.cache.get .render (inputPrint quality code) = some id :=
    (ResultCache.get_eq_remembered? hknown.working).trans hknown.recalled
  have hspared : e.question.spares id = true → e.findsFailed = false →
      (s.Spares id s' → Relies id work s' stage') →
      Known crew (inputPrint quality code) id s' ∧
        (e.findsFailed = false ∧ Stands id renders work s' ∧ Relies id work s' stage' ∨
          e.findsFailed = true ∧ stage' = .wanting ∧ IsSettled work ∧
            s'.record.rendered.length = renders) := by
    intro hspares hfound hrelies
    obtain ⟨hk, hs⟩ := hknown.spared hfresh hreply hspares
    exact ⟨hk, Or.inl ⟨hfound, hstands.spared hs, hrelies hs⟩⟩
  cases hturn with
  | unknown =>
      have hnone := hget.symm.trans (Prod.mk.inj hreply).1
      cases hnone
  | known id' =>
      have hsame := hget.symm.trans (Prod.mk.inj hreply).1
      exact hspared rfl rfl fun _ => (Option.some.inj hsame).symm
  | unread fault => cases hfaultless
  | missing =>
      obtain rfl := h
      exact absurd hknown.there (Studio.getJob_missing hsure hreply)
  | @read id' job =>
      obtain rfl := h
      obtain ⟨-, hfound⟩ := Studio.getJob_eq hreply
      have hrecord := JobStore.record?_of_get (hfound job rfl)
      have hid : job.undated.id = id' := hknown.order.own id' _ hrecord
      rcases hstands.record hrecord with ⟨hsettled, ⟨hdone, hvideo⟩ | ⟨⟨hover, hbad⟩, hrendered⟩⟩ |
        ⟨hlive, hunfinished⟩
      · have hdone' : job.status = .done := hdone
        refine hspared rfl (by simp [findsFailed, jobRead, hdone']) fun hs => ?_
        rw [stageOfKnown, if_pos hdone']
        exact ⟨hid, hsettled, hs.video hvideo⟩
      · -- the job failed: a new one is needed
        have hover' : job.status.isTerminal = true := hover
        have hbad' : job.status ≠ .done := hbad
        obtain ⟨hk, hs⟩ := hknown.spared hfresh hreply rfl
        refine ⟨hk, Or.inr ⟨by simp [findsFailed, jobRead, hover', hbad'], ?_, hsettled, ?_⟩⟩
        · rw [stageOfKnown, if_neg hbad', if_pos hover']
        · rw [hs.rendered]
          exact hrendered
      · have hlive' : job.status.isTerminal = false := hlive
        have hdone : job.status ≠ .done := by
          intro hdone
          rw [hdone] at hlive'
          cases hlive'
        refine hspared rfl (by simp [findsFailed, jobRead, hlive']) fun _ => ?_
        rw [stageOfKnown, if_neg hdone, hlive', if_neg Bool.false_ne_true]
        exact ⟨hid, hunfinished⟩
  | owned => exact hspared rfl rfl fun _ => rfl
  | foreign =>
      obtain ⟨rfl, hover⟩ := h
      have howned := List.contains_iff_mem.mpr (hstands.owned hover)
      rw [show List.contains _ _ = false from (Prod.mk.inj hreply).1] at howned
      cases howned
  | unsought fault => cases hfaultless
  | lost =>
      obtain ⟨rfl, -, content, hvideo⟩ := h
      have hgone := ArtifactStore.video?_of_get_eq_none (Prod.mk.inj hreply).1
      rw [hvideo] at hgone
      cases hgone
  | seen path => exact hspared rfl rfl fun hs => ⟨h.1, h.2.1, hs.video h.2.2⟩
  | unmade fault => cases hfaultless
  | made job =>
      obtain ⟨-, -, hnew, -⟩ := Studio.createJob_new hfresh hknown.order hreply
      refine hspared rfl rfl fun hs => ⟨⟨h.1, h.2.1, hs.video h.2.2⟩, ?_⟩
      rintro rfl
      exact hnew hknown.there
  | uncopied fault => cases hfaultless
  | vanished =>
      obtain ⟨⟨rfl, -, content, hvideo⟩, -⟩ := h
      have hgone := ArtifactStore.clone_eq_none (Prod.mk.inj hreply).1
      rw [hvideo] at hgone
      cases hgone
  | copied path =>
      exact hspared (by simpa [ServiceQuestion.spares, videoCloned] using h.2) rfl fun _ => h.2
  | discarded last => exact h.elim
  | undiscarded unkept => exact h.elim
  | @cached job path last =>
      have hother : job.id ≠ id := h
      exact hspared (by simpa [ServiceQuestion.spares, jobUpdated] using hother) rfl fun _ => rfl
  | @uncached job path reply fault unkept =>
      have hother : job.id ≠ id := h
      exact hspared (by simpa [ServiceQuestion.spares, jobUpdated] using hother) rfl fun _ => rfl
  | uncreated fault => exact h.elim
  | created job => exact h.elim
  | claimed => exact h.elim
  | remembered => exact h.elim

/-! ## A submission that needs a new job -/

/-- What holds in each stage of a submission that needs a new job: nothing is known of the
input, or the known job was let go since its record was read. -/
def Begins (print : String) : SubmitStage → Studio → Prop
  | .asked, s => s.cache.remembered? .render print = none
  | .doubtful job, s => job.id ∉ s.owned
  | .wanting, _ => True
  | .created job, s => s.jobs.Has job.id ∧ s.IsOpen job.id
  | .taken job, s => s.jobs.Has job.id ∧ s.IsOpen job.id ∧ job.id ∈ s.owned
  | _, _ => False

/-- The job that a submission is about to test or to take on. -/
def front : SubmitStage → Option String
  | .doubtful job | .created job | .taken job => some job.id
  | .answered answer => (taskOf answer).map RenderTask.jobId
  | _ => none

/-- **Every turn of a submission that needs a new job leads on** to one that is known. -/
theorem begins_turn {code : String} {quality : Quality} {allowRetry : Bool}
    {stage stage' : SubmitStage} {e : ServiceExchange} (hfaultless : e.isFaultless = true)
    (hturn : SubmitTurn code quality allowRetry stage e stage') (hreply : s.Replies crew e s')
    (hready : Ready crew renders s) (h : Begins (inputPrint quality code) stage s) :
    Ready crew renders s' ∧ Begins (inputPrint quality code) stage' s' ∨
      ∃ job, stage' = .answered (.ok (.enqueued job ⟨job.id, code, quality, allowRetry⟩)) ∧
        Known crew (inputPrint quality code) job.id s' ∧ Stands job.id renders .begun s' := by
  rw [Studio.Replies] at hreply
  cases hturn with
  | unknown =>
      obtain rfl := (Prod.mk.inj hreply).2
      exact Or.inl ⟨hready, trivial⟩
  | known id =>
      have hget := (ResultCache.get_eq_remembered? hready.working).trans h
      have hsome := hget.symm.trans (Prod.mk.inj hreply).1
      cases hsome
  | owned =>
      have howned := List.contains_iff_mem.mp (Prod.mk.inj hreply).1
      exact absurd howned h
  | foreign =>
      obtain rfl := (Prod.mk.inj hreply).2
      exact Or.inl ⟨hready, trivial⟩
  | uncreated fault => cases hfaultless
  | created job =>
      have horder := hready.order.reply hreply
      obtain ⟨jobs, counts, record, rfl, hrendered, -, -, hcreates⟩ := Studio.createJob_eq hreply
      refine Or.inl ⟨⟨horder, hready.working, ?_⟩, ?_⟩
      · exact (congrArg List.length hrendered).trans hready.rendered
      · cases hcreates with
        | made fresh has new others =>
            have hid : job.id = crew.freshId s.counts.made := congrArg Job.id fresh
            rw [Begins, hid]
            refine ⟨has, fun job' hjob => ?_⟩
            rw [new job' hjob]
            rfl
  | @claimed job =>
      have horder := hready.order.reply hreply
      obtain rfl := (Prod.mk.inj hreply).2
      refine Or.inl ⟨⟨horder, hready.working, hready.rendered⟩, h.1, h.2, ?_⟩
      change job.id ∈ (if s.owned.contains job.id then s.owned else job.id :: s.owned)
      split
      · next hmem => exact List.contains_iff_mem.mp hmem
      · exact List.mem_cons_self ..
  | @remembered job =>
      have horder := hready.order.reply hreply
      obtain ⟨hthere, hopen, howned⟩ := h
      obtain rfl := (Prod.mk.inj hreply).2
      refine Or.inr ⟨job, rfl, ⟨horder, ?_, ?_, hthere⟩, howned, hopen, hready.rendered⟩
      · exact ResultCache.refusal_put.trans hready.working
      · exact (ResultCache.remembered?_put hready.working).trans (if_pos rfl)
  | _ => exact h.elim

/-- The turns of a submission that needs a new job read no record, and such a submission turns
to no job that is there already. -/
theorem front_of_begins {code : String} {quality : Quality} {allowRetry : Bool}
    {stage stage' : SubmitStage} {e : ServiceExchange}
    (hfresh : Function.Injective crew.freshId)
    (hturn : SubmitTurn code quality allowRetry stage e stage') (hreply : s.Replies crew e s')
    (hready : Ready crew renders s) (h : Begins (inputPrint quality code) stage s) :
    e.findsFailed = false ∧ ∀ id ∈ front stage', front stage = some id ∨ ¬ s.jobs.Has id := by
  cases hturn with
  | created job =>
      obtain ⟨-, -, hnew, -⟩ := Studio.createJob_new hfresh hready.order hreply
      refine ⟨rfl, ?_⟩
      rintro id ⟨⟩
      exact Or.inr hnew
  | claimed => exact ⟨rfl, fun id hid => Or.inl hid⟩
  | remembered => exact ⟨rfl, fun id hid => Or.inl hid⟩
  | unknown => exact ⟨rfl, nofun⟩
  | known id => exact ⟨rfl, nofun⟩
  | owned => exact ⟨rfl, nofun⟩
  | foreign => exact ⟨rfl, nofun⟩
  | uncreated fault => exact ⟨rfl, nofun⟩
  | _ => exact h.elim

end Known

end SceneRender
