import Mathlib.Data.List.Induction
import Sections.Proofs.Engine.Session

/-!
# What a session remembers

A session keeps the index of the text it saw last, and nothing else of what it did.  So each of its
calls has the answer and the effect that it would have in a session of its own, whatever others do
to the store between the calls.  The cache counts every request for an index as a hit or a miss.  A
hit is a request for the very text of the request before, if that one had an index.
-/

namespace Sections

/-! ## Steps that do not show what is cached -/

namespace Engine

variable {σ α β : Type} {engine : Engine σ}

/-- What it means that the answer and the effect of a step are the same with all faithful caches. -/
def Transparent (engine : Engine σ) (step : SessionM σ α) : Prop :=
  ∀ ⦃cache other : IndexCache⦄, cache.Faithful engine → other.Faithful engine → ∀ state,
    ∃ answer cache' other' state',
      step.outcome cache state = ((answer, cache'), state') ∧
      step.outcome other state = ((answer, other'), state') ∧
      cache'.Faithful engine ∧ other'.Faithful engine

namespace Transparent

theorem pure (value : α) : Transparent engine (Pure.pure value) := by
  intro cache other hcache hother state
  exact ⟨_, cache, other, state, rfl, rfl, hcache, hother⟩

theorem ofExcept (answer : Except DocError α) :
    Transparent engine (MonadExcept.ofExcept answer) := by
  intro cache other hcache hother state
  exact ⟨answer, cache, other, state, by simp, by simp, hcache, hother⟩

theorem callStore (step : StoreM σ α) : Transparent engine (Engine.callStore step) := by
  intro cache other hcache hother state
  exact ⟨_, cache, other, _, rfl, rfl, hcache, hother⟩

theorem indexFor (text : String) : Transparent engine (engine.indexFor text) := by
  intro cache other hcache hother state
  refine ⟨Index.read engine.parse engine.options text, (cache.indexFor engine.hash text).2,
    (other.indexFor engine.hash text).2, state, ?_, ?_, hcache.snd_indexFor _ _,
    hother.snd_indexFor _ _⟩
  · rw [SessionM.outcome_indexFor, ← hcache.fst_indexFor engine.hash]
  · rw [SessionM.outcome_indexFor, ← hother.fst_indexFor engine.hash]

theorem bind {step : SessionM σ α} {next : α → SessionM σ β} (hstep : Transparent engine step)
    (hnext : ∀ value, Transparent engine (next value)) : Transparent engine (step >>= next) := by
  intro cache other hcache hother state
  obtain ⟨answer, cache', other', state', hrun, hrun', hcache', hother'⟩ :=
    hstep hcache hother state
  rw [SessionM.outcome_bind, SessionM.outcome_bind, hrun, hrun']
  cases answer with
  | error fault => exact ⟨_, cache', other', state', rfl, rfl, hcache', hother'⟩
  | ok value => exact hnext value hcache' hother' state'

theorem readWithin (id : String) (selector : Selector) :
    Transparent engine (engine.readWithin id selector) := by
  refine bind (callStore _) fun snapshot => ?_
  refine bind (indexFor snapshot.text) fun index => ?_
  exact bind (ofExcept _) fun region => pure _

theorem beginApply (id : String) (edit : DocEdit) (expected : Revision) :
    Transparent engine (engine.beginApply id edit expected) := by
  refine bind (ofExcept _) fun _ => ?_
  refine bind (callStore _) fun snapshot => ?_
  refine bind (indexFor snapshot.text) fun index => ?_
  exact bind (ofExcept _) fun prepared => pure _

theorem applyWithin (id : String) (edit : DocEdit) (expected : Revision) :
    Transparent engine (engine.applyWithin id edit expected) := by
  refine bind (beginApply id edit expected) fun pending => ?_
  exact bind (callStore _) fun commit => pure _

theorem outcome_eq_alone {step : SessionM σ α} (hstep : Transparent engine step)
    {cache : IndexCache} (hcache : cache.Faithful engine) (state : σ) :
    ∃ cache', step.outcome cache state =
        ((((engine.alone step).run.run state).1, cache'), ((engine.alone step).run.run state).2) ∧
      cache'.Faithful engine := by
  obtain ⟨answer, cache', other', state', hrun, hfresh, hcache', -⟩ :=
    hstep hcache (.newCache engine) state
  have halone : (engine.alone step).run.run state =
      ((step.outcome engine.newCache state).1.1, (step.outcome engine.newCache state).2) := rfl
  rw [halone, hfresh]
  exact ⟨cache', hrun, hcache'⟩

end Transparent

end Engine

/-! ## Calls of a session -/

inductive SessionCall where
  | read (id : String) (selector : Selector)
  | apply (id : String) (edit : DocEdit) (expected : Revision)

inductive SessionAnswer where
  | slice (answer : Except DocError Slice)
  | envelope (answer : Except DocError Envelope)

namespace Engine

variable {σ : Type} (engine : Engine σ)

def callWithin (cache : IndexCache) (state : σ) : SessionCall → (SessionAnswer × IndexCache) × σ
  | .read id selector =>
    let ((answer, cache), state) := (engine.readWithin id selector).outcome cache state
    ((.slice answer, cache), state)
  | .apply id edit expected =>
    let ((answer, cache), state) := (engine.applyWithin id edit expected).outcome cache state
    ((.envelope answer, cache), state)

def callAlone (state : σ) : SessionCall → SessionAnswer × σ
  | .read id selector =>
    let (answer, state) := (engine.read id selector).run.run state
    (.slice answer, state)
  | .apply id edit expected =>
    let (answer, state) := (engine.apply id edit expected).run.run state
    (.envelope answer, state)

/-- The calls of one session, each of them after what others have done to the store by then. -/
def callsWithin (cache : IndexCache) (state : σ) :
    List ((σ → σ) × SessionCall) → (List SessionAnswer × IndexCache) × σ
  | [] => (([], cache), state)
  | (change, call) :: rest =>
    let ((answer, cache), state) := engine.callWithin cache (change state) call
    let ((answers, cache), state) := callsWithin cache state rest
    ((answer :: answers, cache), state)

/-- The same calls, each of them in a session of its own. -/
def callsAlone (state : σ) : List ((σ → σ) × SessionCall) → List SessionAnswer × σ
  | [] => ([], state)
  | (change, call) :: rest =>
    let (answer, state) := engine.callAlone (change state) call
    let (answers, state) := callsAlone state rest
    (answer :: answers, state)

variable {engine} {cache : IndexCache}

theorem callWithin_eq_alone (hcache : cache.Faithful engine) (state : σ) (call : SessionCall) :
    ∃ cache', engine.callWithin cache state call =
        (((engine.callAlone state call).1, cache'), (engine.callAlone state call).2) ∧
      cache'.Faithful engine := by
  cases call with
  | read id selector =>
      obtain ⟨cache', hrun, hcache'⟩ :=
        (Transparent.readWithin id selector).outcome_eq_alone hcache state
      rw [callWithin, hrun]
      exact ⟨cache', rfl, hcache'⟩
  | apply id edit expected =>
      obtain ⟨cache', hrun, hcache'⟩ :=
        (Transparent.applyWithin id edit expected).outcome_eq_alone hcache state
      rw [callWithin, hrun]
      exact ⟨cache', rfl, hcache'⟩

theorem callsWithin_eq_alone (hcache : cache.Faithful engine) (state : σ)
    (calls : List ((σ → σ) × SessionCall)) :
    ∃ cache', engine.callsWithin cache state calls =
        (((engine.callsAlone state calls).1, cache'), (engine.callsAlone state calls).2) ∧
      cache'.Faithful engine := by
  induction calls generalizing cache state with
  | nil => exact ⟨cache, rfl, hcache⟩
  | cons entry rest ih =>
      obtain ⟨change, call⟩ := entry
      obtain ⟨cache', hcall, hcache'⟩ := callWithin_eq_alone hcache (change state) call
      obtain ⟨cache'', hrest, hcache''⟩ := ih hcache' (engine.callAlone (change state) call).2
      rw [callsWithin, hcall]
      dsimp only
      rw [hrest]
      exact ⟨cache'', rfl, hcache''⟩

end Engine

/-! ## Hits and misses -/

namespace IndexCache

inductive Request where
  | indexFor (text : String)
  | clear
  deriving DecidableEq

namespace Request

def asksForIndex : Request → Bool
  | .indexFor _ => true
  | .clear => false

def serve (hash : TextHash) (cache : IndexCache) : Request → IndexCache
  | .indexFor text => (cache.indexFor hash text).2
  | .clear => cache.clear

end Request

def serveAll (hash : TextHash) (requests : List Request) (cache : IndexCache) : IndexCache :=
  requests.foldl (Request.serve hash) cache

variable (hash : TextHash) (parse : TextParser) (options : IndexOptions)

/-- Whether the last of some requests was for this text, and had an index. -/
def JustIndexed (requests : List Request) (text : String) : Prop :=
  ∃ earlier index, requests = earlier ++ [.indexFor text] ∧
    Index.read parse options text = .ok index

def kept (requests : List Request) : Option CachedIndex :=
  match requests.getLast? with
  | some (.indexFor text) =>
    (Index.read parse options text).toOption.map fun index => ⟨hash text, text, index⟩
  | some .clear | none => none

theorem kept_eq_some {requests : List Request} {entry : CachedIndex}
    (hkept : kept hash parse options requests = some entry) :
    ∃ earlier, requests = earlier ++ [.indexFor entry.text] ∧
      Index.read parse options entry.text = .ok entry.index ∧ entry.hash = hash entry.text := by
  rcases List.eq_nil_or_concat requests with rfl | ⟨earlier, last, rfl⟩
  · cases hkept
  · rw [List.concat_eq_append] at *
    cases last with
    | clear => simp [kept] at hkept
    | indexFor text =>
        cases hindex : Index.read parse options text with
        | error fault => simp [kept, hindex, Except.toOption] at hkept
        | ok index =>
            obtain rfl : ⟨hash text, text, index⟩ = entry := by
              simpa [kept, hindex, Except.toOption] using hkept
            exact ⟨earlier, rfl, hindex, rfl⟩

/-- What some requests leave a new cache like. -/
structure Serves (requests : List Request) (cache : IndexCache) : Prop where
  options_eq : cache.options = options
  parse_eq : cache.parse = parse
  entry_eq : cache.entry = kept hash parse options requests
  counts_eq : cache.hits + cache.misses = requests.countP Request.asksForIndex

namespace Serves

variable {hash parse options} {requests : List Request} {cache : IndexCache}

theorem new : Serves hash parse options [] { options, parse } := ⟨rfl, rfl, rfl, rfl⟩

theorem indexFor_of_justIndexed (hserves : Serves hash parse options requests cache)
    {text : String} (hjust : JustIndexed parse options requests text) :
    cache.indexFor hash text =
      (Index.read parse options text, { cache with hits := cache.hits + 1 }) := by
  obtain ⟨earlier, index, rfl, hindex⟩ := hjust
  have hentry : cache.entry = some ⟨hash text, text, index⟩ := by
    simp [hserves.entry_eq, kept, hindex, Except.toOption]
  have hhit : (cache.entry.filter fun entry => entry.hash == hash text && entry.text == text) =
      some ⟨hash text, text, index⟩ := by
    simp [hentry, Option.filter]
  simp [indexFor, hhit, hindex]

theorem indexFor_of_not_justIndexed (hserves : Serves hash parse options requests cache)
    {text : String} (hjust : ¬ JustIndexed parse options requests text) :
    cache.indexFor hash text =
      (Index.read parse options text,
        { cache with
          entry := kept hash parse options (requests ++ [.indexFor text])
          misses := cache.misses + 1 }) := by
  have hmiss : (cache.entry.filter fun entry => entry.hash == hash text && entry.text == text) =
      none := by
    rw [Option.filter_eq_none_iff]
    intro entry hentry hsame
    rw [hserves.entry_eq] at hentry
    obtain ⟨earlier, hrequests, hindex, -⟩ := kept_eq_some hash parse options hentry
    obtain ⟨-, rfl⟩ : entry.hash = hash text ∧ entry.text = text := by simpa using hsame
    exact hjust ⟨earlier, entry.index, hrequests, hindex⟩
  simp [indexFor, hmiss, hserves.options_eq, hserves.parse_eq, kept]

theorem kept_of_justIndexed {text : String} (hjust : JustIndexed parse options requests text) :
    kept hash parse options (requests ++ [.indexFor text]) =
      kept hash parse options requests := by
  obtain ⟨earlier, index, rfl, hindex⟩ := hjust
  simp [kept]

theorem serve (hserves : Serves hash parse options requests cache) (request : Request) :
    Serves hash parse options (requests ++ [request]) (request.serve hash cache) := by
  have hcounts := hserves.counts_eq
  cases request with
  | clear =>
      refine ⟨hserves.options_eq, hserves.parse_eq, ?_, ?_⟩
      · simp [Request.serve, IndexCache.clear, kept]
      · simpa [Request.serve, IndexCache.clear, Request.asksForIndex] using hcounts
  | indexFor text =>
      by_cases hjust : JustIndexed parse options requests text
      · rw [Request.serve, hserves.indexFor_of_justIndexed hjust]
        refine ⟨hserves.options_eq, hserves.parse_eq, ?_, ?_⟩
        · rw [kept_of_justIndexed hjust]
          exact hserves.entry_eq
        · simp [Request.asksForIndex]
          omega
      · rw [Request.serve, hserves.indexFor_of_not_justIndexed hjust]
        refine ⟨hserves.options_eq, hserves.parse_eq, rfl, ?_⟩
        simp [Request.asksForIndex]
        omega

theorem serveAll (hash : TextHash) (parse : TextParser) (options : IndexOptions)
    (requests : List Request) :
    Serves hash parse options requests (IndexCache.serveAll hash requests { options, parse }) := by
  induction requests using List.reverseRecOn with
  | nil => exact .new
  | append_singleton earlier last ih =>
      rw [IndexCache.serveAll, List.foldl_append]
      exact ih.serve last

end Serves

end IndexCache

/--
Calls that share a session have the answers and the effects that they have in sessions of
their own, whatever happens to the store between them.  A cache answers each request with
the index of the text, counts it once, and as a hit exactly if the request before was for
the same text and had an index.
-/
theorem caching_is_invisible :
    (∀ {σ : Type} (engine : Engine σ) (state : σ) (calls : List ((σ → σ) × SessionCall)),
      let shared := engine.callsWithin engine.newCache state calls
      (shared.1.1, shared.2) = engine.callsAlone state calls) ∧
    ∀ (hash : TextHash) (parse : TextParser) (options : IndexOptions)
      (requests : List IndexCache.Request) (text : String),
      let cache := IndexCache.serveAll hash requests { options, parse }
      let asked := cache.indexFor hash text
      asked.1 = Index.read parse options text ∧
      cache.hits + cache.misses = requests.countP IndexCache.Request.asksForIndex ∧
      (asked.2.hits = cache.hits + 1 ∧ asked.2.misses = cache.misses ↔
        IndexCache.JustIndexed parse options requests text) ∧
      (asked.2.hits = cache.hits ∧ asked.2.misses = cache.misses + 1 ↔
        ¬ IndexCache.JustIndexed parse options requests text) := by
  refine ⟨?_, ?_⟩
  · intro σ engine state calls shared
    obtain ⟨cache, hcalls, -⟩ := Engine.callsWithin_eq_alone (.newCache engine) state calls
    simp only [shared, hcalls]
  · intro hash parse options requests text cache asked
    have hserves := IndexCache.Serves.serveAll hash parse options requests
    by_cases hjust : IndexCache.JustIndexed parse options requests text
    · have hasked := hserves.indexFor_of_justIndexed hjust
      simp [asked, cache, hasked, hjust, hserves.counts_eq]
    · have hasked := hserves.indexFor_of_not_justIndexed hjust
      simp [asked, cache, hasked, hjust, hserves.counts_eq]

end Sections
