import SceneRender.Proofs.Pipeline.Mishaps

/-!
# What the work at a task leaves alone

All that the work at a task asks is about its own job (`WorkTurn.isFor`).  So the records
of the other jobs stay as they are, moments included, and the cache is not touched at all.
With the videos this needs a word about the renderer: storing a video takes its source
away, and a source in the folder of the stored videos could be the video of another job.
`Studio.keepsOut` says that the renderer reports no path in there, which is all that is
asked of it.

`Studio.Apart` is what a job's work leaves alone.  One exchange keeps it
(`Studio.OwnExchange.apart`), and therefore the whole work (`process_apart`), whatever the
job store refuses on the way.
-/

namespace SceneRender

open Plan Pipeline ServiceExchange

/-! ## Questions about one job -/

/-- Is the question about the job with this id?  A repair is about no job by itself; it is
for the job whose task is worked off. -/
def ServiceQuestion.isFor (id : String) : ServiceQuestion → Bool
  | .getJob id' | .updateJob id' _ | .keepVideo id' _ | .render id' _ _ | .release id' =>
    id' == id
  | .repair .. => true
  | _ => false

/-- **The work at a task asks about its own job only.** -/
theorem Pipeline.WorkTurn.isFor {task : RenderTask} {stage stage' : WorkStage}
    {e : ServiceExchange} (h : WorkTurn task stage e stage') :
    e.question.isFor task.jobId = true := by
  cases h <;> simp [ServiceQuestion.isFor, jobRead, jobUpdated, rendered, ServiceExchange.repaired,
    videoKept, ServiceExchange.released]

namespace Studio

/-- The file that lies where the video of a job belongs. -/
def film? (s : Studio) (id : String) : Option ByteArray := s.disk.fileAt (s.videos.place s.disk id)

/-- Does the renderer stay out of the folder of the stored videos at the next call? -/
def keepsOut (crew : Crew) (s : Studio) : ServiceQuestion → Bool
  | .render id code quality =>
    match s.nextRendering crew id code quality with
    | .video path _ => !s.videos.holds s.disk path
    | .timeout | .failure _ => true
  | _ => true

/-- The studio replies, with a job store that fails as the crew has it, a cache that may fail
from call to call and a renderer that stays out of the folder of the stored videos. -/
def Works (crew : Crew) (s : Studio) (e : ServiceExchange) (s' : Studio) : Prop :=
  s.keepsOut crew e.question = true ∧
    ∃ refusal, reply crew e.question (s.withRefusal refusal) = (e.reply, s')

variable {crew : Crew} {s s' s'' : Studio} {e : ServiceExchange} {id : String}

/-- Work at the files of jobs may falter like any other. -/
theorem Works.falters (h : s.Works crew e s') : s.Falters crew e s' := Or.inl h.2

/-! ## Two studios -/

/-- From one studio to the other nothing was done but what belongs to one job. -/
structure Apart (id : String) (s s' : Studio) : Prop where
  /-- The videos are kept in the same folder. -/
  videos : s'.videos = s.videos
  working : s'.disk.working = s.disk.working
  /-- No other record differs. -/
  records : ∀ id', id' ≠ id → s'.jobs.held? id' = s.jobs.held? id'
  /-- No other video differs. -/
  films : ∀ id', id' ≠ id → s'.film? id' = s.film? id'
  /-- The cache has the same entries. -/
  entries : s'.cache.store.entries = s.cache.store.entries

/-- Nothing changed at first. -/
theorem Apart.refl (id : String) (s : Studio) : Apart id s s :=
  ⟨rfl, rfl, fun _ _ => rfl, fun _ _ => rfl, rfl⟩

/-- What stayed apart twice stayed apart. -/
theorem Apart.trans (h : Apart id s s') (h' : Apart id s' s'') : Apart id s s'' where
  videos := h'.videos.trans h.videos
  working := h'.working.trans h.working
  records id' hne := (h'.records id' hne).trans (h.records id' hne)
  films id' hne := (h'.films id' hne).trans (h.films id' hne)
  entries := h'.entries.trans h.entries

/-- A disk with the same files at the places of the other videos has the same videos. -/
theorem film?_steady {changed : Disk.Place → Prop} (hvideos : s'.videos = s.videos)
    (h : Disk.Steady changed s.disk s'.disk) (hplace : ¬ changed (s.videos.place s.disk id)) :
    s'.film? id = s.film? id := by
  rw [film?, film?, hvideos, ArtifactStore.place_steady h, h.files _ hplace]

/-! ## Single exchanges -/

/-- Rendering changes no stored video, and what is reported lies outside their folder. -/
theorem Works.render_steady {code : String} {quality : Quality} {outcome : RenderOutcome}
    (h : s.Works crew (rendered id code quality outcome) s') :
    s'.videos = s.videos ∧ s'.jobs = s.jobs ∧
      s'.cache.store.entries = s.cache.store.entries ∧
      Disk.Steady (fun p => ∀ id, p ≠ s.videos.place s.disk id) s.disk s'.disk ∧
      ∀ path, outcome = .success path → s'.videos.holds s'.disk path = false := by
  obtain ⟨hout, refusal, hreply⟩ := h
  obtain ⟨rfl, disk, rfl, hdisk⟩ := render_eq hreply
  have hnext : (s.withRefusal refusal).nextRendering crew id code quality =
      s.nextRendering crew id code quality := rfl
  rw [hnext] at hdisk ⊢
  have houtside : ∀ path content, s.nextRendering crew id code quality = .video path content →
      s.videos.holds s.disk path = false := by
    intro path content hpath
    simpa [keepsOut, rendered, hpath] using hout
  refine ⟨rfl, rfl, rfl, ?_⟩
  rcases hdisk with rfl | ⟨path, content, hpath, hwrite⟩
  · refine ⟨Disk.Steady.refl _ _, ?_⟩
    intro path hsuccess
    rcases hleft : s.nextRendering crew id code quality with ⟨path', content⟩ | _ | _ <;>
      rw [hleft] at hsuccess <;> cases hsuccess
    exact houtside path content hleft
  · have hheld := houtside path (some content) hpath
    have hsteady := (Disk.write_eq_ok hwrite).2
    refine ⟨hsteady.mono ?_, ?_⟩
    · rintro p rfl id'
      exact ArtifactStore.placeOf_ne_place hheld id'
    · intro path' hsuccess
      rw [hpath] at hsuccess
      cases hsuccess
      change s.videos.holds disk path = false
      rw [ArtifactStore.holds_steady hsteady]
      exact hheld

/-- Storing a video answers as the store of the videos does, and changes the disk alone. -/
theorem Works.keep_eq {path : String} {r : Except ArtifactFault String}
    (h : s.Works crew (videoKept id path r) s') :
    r = (s.videos.put id path s.disk).1 ∧ s'.jobs = s.jobs ∧ s'.videos = s.videos ∧
      s'.cache.store.entries = s.cache.store.entries ∧
      s'.disk = (s.videos.put id path s.disk).2 := by
  obtain ⟨-, refusal, hreply⟩ := h
  cases hreply
  exact ⟨rfl, rfl, rfl, rfl, rfl⟩

/-- Everything but rendering and storing leaves the disk and the videos as they are. -/
theorem Works.quiet (h : s.Works crew e s') (hown : e.question.isFor id = true)
    (hrender : ∀ code quality, e.question ≠ .render id code quality)
    (hkeep : ∀ path, e.question ≠ .keepVideo id path) :
    s'.disk = s.disk ∧ s'.videos = s.videos ∧
      s'.cache.store.entries = s.cache.store.entries := by
  obtain ⟨-, refusal, hreply⟩ := h
  obtain ⟨q, r⟩ := e
  cases q with
  | getJob id' =>
      obtain ⟨⟨n, rfl⟩, -⟩ := getJob_eq hreply
      exact ⟨rfl, rfl, rfl⟩
  | updateJob id' u =>
      obtain ⟨jobs, counts, record, rfl, -⟩ := updateJob_eq hreply
      exact ⟨rfl, rfl, rfl⟩
  | release id' =>
      cases hreply
      exact ⟨rfl, rfl, rfl⟩
  | repair code diagnostic =>
      cases hreply
      exact ⟨rfl, rfl, rfl⟩
  | render id' code quality =>
      obtain rfl : id' = id := by simpa [ServiceQuestion.isFor] using hown
      exact absurd rfl (hrender code quality)
  | keepVideo id' path =>
      obtain rfl : id' = id := by simpa [ServiceQuestion.isFor] using hown
      exact absurd rfl (hkeep path)
  | _ => cases hown

/-- The records of the other jobs stay. -/
theorem Works.records (h : s.Works crew e s') (hown : e.question.isFor id = true) {id' : String}
    (hne : id' ≠ id) : s'.jobs.held? id' = s.jobs.held? id' := by
  have hwrites := writes_of_falters h.falters
  cases hwrites with
  | nothing unwritten jobs count => rw [jobs]
  | made => cases hown
  | @updated id₁ u job old _ found new stored others count =>
      obtain rfl : id₁ = id := by simpa [ServiceQuestion.isFor, jobUpdated] using hown
      exact others id' hne

/-- An exchange in the work at a job: it is about that job, and a video is stored from
outside the folder of the stored videos. -/
structure OwnExchange (id : String) (s : Studio) (e : ServiceExchange) (s' : Studio) : Prop where
  works : ∃ crew, s.Works crew e s'
  own : e.question.isFor id = true
  outside : ∀ path, e.question = .keepVideo id path → s.videos.holds s.disk path = false

/-- **One exchange leaves alone what is not its job's.** -/
theorem OwnExchange.apart (h : s.OwnExchange id e s') : Apart id s s' := by
  obtain ⟨⟨crew, hworks⟩, hown, houtside⟩ := h
  have hrecords : ∀ id', id' ≠ id → s'.jobs.held? id' = s.jobs.held? id' :=
    fun id' hne => hworks.records hown hne
  by_cases hrender : ∃ code quality, e.question = .render id code quality
  · obtain ⟨code, quality, hquestion⟩ := hrender
    obtain ⟨q, r⟩ := e
    cases hquestion
    obtain ⟨hvideos, -, hentries, hsteady, -⟩ := Works.render_steady hworks
    exact ⟨hvideos, hsteady.working, hrecords,
      fun id' _ => film?_steady hvideos hsteady fun hother => hother id' rfl, hentries⟩
  · by_cases hkeep : ∃ path, e.question = .keepVideo id path
    · obtain ⟨path, hquestion⟩ := hkeep
      have hheld := houtside path hquestion
      obtain ⟨q, r⟩ := e
      cases hquestion
      obtain ⟨-, -, hvideos, hentries, hdisk⟩ := Works.keep_eq hworks
      have hsteady := s.videos.steady_put s.disk id path
      rw [← hdisk] at hsteady
      refine ⟨hvideos, hsteady.working, hrecords, ?_, hentries⟩
      intro id' hne
      refine film?_steady hvideos hsteady ?_
      rintro (hplace | hsource)
      · exact hne (ArtifactStore.place_inj hplace)
      · exact ArtifactStore.placeOf_ne_place hheld id' hsource.symm
    · obtain ⟨hdisk, hvideos, hentries⟩ := hworks.quiet hown
        (fun code quality heq => hrender ⟨code, quality, heq⟩) (fun path heq => hkeep ⟨path, heq⟩)
      refine ⟨hvideos, by rw [hdisk], hrecords, ?_, hentries⟩
      intro id' _
      rw [film?, film?, hdisk, hvideos]

/-! ## The whole work -/

/-- A render that was reported lies outside the folder of the stored videos. -/
def FilmedOutside (stage : WorkStage) (s : Studio) : Prop :=
  ∀ path, stage = .filmed path → s.videos.holds s.disk path = false

variable {task : RenderTask} {stage stage' : WorkStage}

/-- Renders leave their files outside the store. -/
theorem FilmedOutside.turn (hturn : WorkTurn task stage e stage') (h : s.Works crew e s') :
    FilmedOutside stage' s' := by
  rintro path rfl
  cases hturn with
  | filmed =>
      obtain ⟨-, -, -, -, hheld⟩ := h.render_steady
      exact hheld path rfl

/-- A video is stored from where it was reported. -/
theorem FilmedOutside.outside {path : String} (hs : FilmedOutside stage s)
    (hturn : WorkTurn task stage e stage') (hkeep : e.question = .keepVideo task.jobId path) :
    s.videos.holds s.disk path = false := by
  cases hturn <;> cases hkeep
  · exact hs path rfl
  · exact hs path rfl

/-- **The exchanges of the work at a task are its job's own.** -/
theorem runs_ownExchange {n : Nat} {r : Except PipelineFault JobStatus}
    (h : Runs (fun s e s' => ∃ crew, s.Works crew e s') (process n task) s r s') :
    Runs (Studio.OwnExchange task.jobId) (process n task) s r s' := by
  have hstart : FilmedOutside .begun s := fun _ heq => nomatch heq
  have hboth : Runs (Studio.OwnExchange task.jobId) (process n task) s r s' ∧
      ∃ stage, stage = WorkStage.complete ∧ FilmedOutside stage s' := by
    refine (follows_process n task).runs h hstart ?_
    intro stage e stage' s s' hturn hworks hs
    obtain ⟨crew, hworks⟩ := hworks
    exact ⟨FilmedOutside.turn hturn hworks, ⟨crew, hworks⟩, hturn.isFor,
      fun path hkeep => hs.outside hturn hkeep⟩
  exact hboth.1

/-- **Working a task off changes nothing but its own job's record and video**, whatever the
job store refuses on the way. -/
theorem process_apart {n : Nat} {r : Except PipelineFault JobStatus}
    (h : Runs (fun s e s' => ∃ crew, s.Works crew e s') (process n task) s r s') :
    Apart task.jobId s s' :=
  (runs_ownExchange h).invariant (Apart.refl _ s) fun _ _ _ hexchange hs =>
    hs.trans hexchange.apart

end Studio

end SceneRender
