import Mathlib.Data.List.Dedup
import EventLog.Proofs.Rendering.History
import EventLog.Proofs.Rendering.Rendition

set_option autoImplicit false

/-! # Kept layouts in the course of time

Layouts are compiled, fetched, prepared before they are needed, used to format events, and sometimes all
of them are dropped. Through all of that the kept layouts are those that were asked for since they were
last dropped, each with the segments that compiling it gives (`Keeps`). So nobody can tell whether a layout
was kept, but from the notices: one is given for each compilation, and fetching gives one exactly if the
layout is not kept (`compilations_fetch`). The main statement is `kept_layouts_transparent`. -/

namespace EventLog

/-- Whether the notice says that a layout was compiled. -/
def Notice.isCompilation : Notice → Bool
  | .compiled .. => true
  | _ => false

/-! ## Which layouts are kept -/

namespace Cache

/-- Whether the cache holds just these layouts, each once and with the segments that compiling gives. -/
structure Keeps (c : Cache) (layouts : List Text) : Prop where
  sound : c.Sound
  nodup : c.keys.Nodup
  mem_keys : ∀ layout, layout ∈ c.keys ↔ layout ∈ layouts

theorem keeps_nil : Keeps [] [] :=
  ⟨sound_nil, List.nodup_nil, fun _ => Iff.rfl⟩

theorem Keeps.has_iff {c : Cache} {layouts : List Text} (h : c.Keeps layouts) (layout : Text) :
    c.has layout = true ↔ layout ∈ layouts :=
  (Table.has_iff_mem_keys c layout).trans (h.mem_keys layout)

theorem Keeps.compile {c : Cache} {layouts : List Text} (h : c.Keeps layouts) (layout : Text) :
    (c.compile layout).2.Keeps (layouts ++ [layout]) := by
  refine ⟨h.sound.compile layout, Table.nodup_keys_put _ _ _ h.nodup, fun other => ?_⟩
  rw [Cache.compile, Table.keys_put, List.mem_append, List.mem_singleton, ← h.mem_keys]
  split
  · rename_i hm
    exact ⟨.inl, fun ho => ho.elim id fun e => e ▸ hm⟩
  · rw [List.mem_append, List.mem_singleton]

theorem Keeps.fetch {c : Cache} {layouts : List Text} (h : c.Keeps layouts) (layout : Text) :
    (c.fetch layout).2.Keeps (layouts ++ [layout]) := by
  cases hg : c.get? layout with
  | none =>
      have hf : c.fetch layout = c.compile layout := by rw [Cache.fetch, hg]
      rw [hf]
      exact h.compile layout
  | some segments =>
      -- the layout is known already, so nothing is added
      have hf : (c.fetch layout).2 = c := by rw [Cache.fetch, hg]
      have hm : layout ∈ layouts := (h.has_iff layout).1 (by rw [Table.has, hg]; rfl)
      rw [hf]
      refine ⟨h.sound, h.nodup, fun other => ?_⟩
      rw [h.mem_keys, List.mem_append, List.mem_singleton]
      exact ⟨.inl, fun ho => ho.elim id fun e => e ▸ hm⟩

/-- So many layouts are kept as different ones were asked for. -/
theorem Keeps.length {c : Cache} {layouts : List Text} (h : c.Keeps layouts) :
    List.length c = layouts.dedup.length := by
  have hp : c.keys.Perm layouts.dedup :=
    (List.perm_ext_iff_of_nodup h.nodup (List.nodup_dedup layouts)).2 fun layout => by
      rw [h.mem_keys, List.mem_dedup]
  rw [← hp.length_eq, Table.keys, List.length_map]

end Cache

namespace Environment

/-! ## Requests -/

/-- Something that is asked for, for which a layout may be compiled. -/
inductive Request where
  | compile (layout : Text)
  | fetch (layout : Text)
  /-- Makes sure that the layout is kept when it is needed. -/
  | prepare (layout : Text)
  | format (layout : Text) (e : Event)
  /-- Drops all kept layouts. -/
  | clear
  /-- Takes source locations from another provider from now on. -/
  | install (source : LocationSource)

/-- The environment after a request, however it ended. -/
def after (env : Environment) : Request → Environment
  | .compile layout => (env.compile layout).2
  | .fetch layout => (env.fetch layout).2
  | .prepare layout => (env.fetch layout).2
  | .format layout e =>
      match Layout.format layout ⟨env, e⟩ with
      | .ok _ s => s.env
      | .error _ s => s.env
  | .clear => env.clearCache
  | .install source => env.install source

/-- The environment after a history. -/
def run (env : Environment) (history : List Request) : Environment :=
  history.foldl after env

/-- The layouts that were asked for since all were dropped, after one more request. -/
def remember (layouts : List Text) : Request → List Text
  | .compile layout => layouts ++ [layout]
  | .fetch layout => layouts ++ [layout]
  | .prepare layout => layouts ++ [layout]
  | .format layout _ => layouts ++ [layout]
  | .clear => []
  | .install _ => layouts

/-- The layouts that were asked for in a history since all were dropped. -/
def requested (history : List Request) : List Text :=
  history.foldl remember []

/-- How many layouts were compiled so far. -/
def compilations (env : Environment) : Nat :=
  env.notices.countP Notice.isCompilation

/-- What formatting an event gives, and the event afterwards. -/
def formatted (env : Environment) (layout : Text) (e : Event) : Except Fault Text × Event :=
  match Layout.format layout ⟨env, e⟩ with
  | .ok t s => (.ok t, s.event)
  | .error f s => (.error f, s.event)

/-! ## One request -/

/-- Formatting fetches the layout; what it does then is neither to keep nor to compile one. -/
theorem after_format_eq (env : Environment) (layout : Text) (e : Event) :
    ∃ provider notices, (∀ n ∈ notices, n.isCompilation = false)
      ∧ env.after (.format layout e)
        = { (env.fetch layout).2 with
            provider := provider
            notices := (env.fetch layout).2.notices ++ notices } := by
  have hfrom := Layout.rendition_isFrom env.zone env.provider e (env.fetch layout).1
  generalize hr : Layout.rendition env.zone env.provider e (env.fetch layout).1 = r at hfrom
  refine ⟨r.provider, r.notices, fun n m => ?_, ?_⟩
  · obtain ⟨reason, rfl⟩ := hfrom.notices n m
    rfl
  · rw [after, Layout.format_eq_inEnvironment, hr]
    obtain ⟨result, provider, e', notices⟩ := r
    cases result <;> rfl

theorem keeps_after (env : Environment) {layouts : List Text} (h : env.cache.Keeps layouts)
    (request : Request) : (env.after request).cache.Keeps (remember layouts request) := by
  have hf : ∀ layout, (env.fetch layout).2.cache.Keeps (layouts ++ [layout]) := by
    intro layout
    rw [(env.fetch_cache layout).1]
    exact h.fetch layout
  cases request with
  | compile layout => exact h.compile layout
  | fetch layout => exact hf layout
  | prepare layout => exact hf layout
  | format layout e =>
      obtain ⟨provider, notices, -, he⟩ := env.after_format_eq layout e
      rw [he]
      exact hf layout
  | clear => exact Cache.keeps_nil
  | install source => exact h

theorem zone_after (env : Environment) (request : Request) :
    (env.after request).zone = env.zone := by
  have hf : ∀ layout, (env.fetch layout).2.zone = env.zone := by
    intro layout
    rw [env.fetch_snd_eq]
  cases request with
  | fetch layout => exact hf layout
  | prepare layout => exact hf layout
  | format layout e =>
      obtain ⟨provider, notices, -, he⟩ := env.after_format_eq layout e
      rw [he]
      exact hf layout
  | _ => rfl

theorem compilations_compile (env : Environment) (layout : Text) :
    (env.compile layout).2.compilations = env.compilations + 1 := by
  simp [compilations, compile, report, Notice.isCompilation]

theorem compilations_fetch (env : Environment) (layout : Text) :
    (env.fetch layout).2.compilations = env.compilations + if env.cache.has layout then 0 else 1 := by
  cases hg : env.cache.get? layout with
  | none =>
      have hf : env.fetch layout = env.compile layout := by rw [fetch, hg]
      rw [hf, compilations_compile, Table.has, hg]
      rfl
  | some segments =>
      have hf : (env.fetch layout).2 = env := by rw [fetch, hg]
      rw [hf, Table.has, hg]
      rfl

theorem compilations_format (env : Environment) (layout : Text) (e : Event) :
    (env.after (.format layout e)).compilations = (env.fetch layout).2.compilations := by
  obtain ⟨provider, notices, hn, he⟩ := env.after_format_eq layout e
  have hz : notices.countP Notice.isCompilation = 0 :=
    List.countP_eq_zero.2 fun n m => by simp [hn n m]
  rw [he, compilations, List.countP_append, hz]
  rfl

theorem formatted_congr {env env' : Environment} (h : env.cache.Sound) (h' : env'.cache.Sound)
    (hz : env'.zone = env.zone) (hp : env'.provider = env.provider) (layout : Text) (e : Event) :
    env'.formatted layout e = env.formatted layout e := by
  rw [formatted, formatted, Layout.format_eq_inEnvironment, Layout.format_eq_inEnvironment,
    env.fetch_fst_of_sound h, env'.fetch_fst_of_sound h', hz, hp]
  generalize (Layout.rendition env.zone env.provider e (Layout.compile layout)).stripped = r
  obtain ⟨result, provider, e', notices⟩ := r
  cases result <;> rfl

/-! ## Histories -/

theorem keeps_run (env : Environment) {layouts : List Text} (h : env.cache.Keeps layouts)
    (history : List Request) :
    (env.run history).cache.Keeps (history.foldl remember layouts) := by
  induction history generalizing env layouts with
  | nil => exact h
  | cons request rest ih => exact ih (env.after request) (env.keeps_after h request)

theorem zone_run (env : Environment) (history : List Request) :
    (env.run history).zone = env.zone := by
  induction history generalizing env with
  | nil => rfl
  | cons request rest ih => exact (ih (env.after request)).trans (env.zone_after request)

/-- After every history that starts with nothing kept:

    1. What is kept for a layout is what compiling it with nothing kept gives, and fetching it gives the
       same.
    2. Formatting an event gives the same as after any other history that leaves the same provider.
    3. So many layouts are kept as different ones were asked for since all were dropped.
    4. Fetching, preparing and formatting compile the layout once if it was not asked for since all were
       dropped, and not at all otherwise. -/
theorem kept_layouts_transparent (zone : LocalZone) (history : List Request) :
    let fresh := initial zone
    let env := fresh.run history
    ((∀ layout segments, env.cache.get? layout = some segments →
          segments = (fresh.compile layout).1)
        ∧ ∀ layout, (env.fetch layout).1 = (fresh.compile layout).1)
      ∧ (∀ other, (fresh.run other).provider = env.provider → ∀ layout e,
          (fresh.run other).formatted layout e = env.formatted layout e)
      ∧ List.length env.cache = (requested history).dedup.length
      ∧ ∀ layout e, ∀ request ∈ [Request.fetch layout, .prepare layout, .format layout e],
          (env.after request).compilations
            = env.compilations + if layout ∈ requested history then 0 else 1 := by
  intro fresh env
  have hk : ∀ history, (fresh.run history).cache.Keeps (requested history) :=
    fun history => fresh.keeps_run Cache.keeps_nil history
  have hkeeps := hk history
  have hfetch : ∀ layout, (env.fetch layout).2.compilations
      = env.compilations + if layout ∈ requested history then 0 else 1 := by
    intro layout
    rw [compilations_fetch]
    by_cases hm : layout ∈ requested history
    · rw [if_pos hm, if_pos ((hkeeps.has_iff layout).2 hm)]
    · rw [if_neg hm, if_neg fun h => hm ((hkeeps.has_iff layout).1 h)]
  refine ⟨⟨hkeeps.sound, env.fetch_fst_of_sound hkeeps.sound⟩, fun other hp => ?_,
    hkeeps.length, fun layout e request m => ?_⟩
  · exact formatted_congr hkeeps.sound (hk other).sound
      ((fresh.zone_run other).trans (fresh.zone_run history).symm) hp
  · simp only [List.mem_cons, List.not_mem_nil, or_false] at m
    rcases m with rfl | rfl | rfl
    · exact hfetch layout
    · exact hfetch layout
    · rw [compilations_format]
      exact hfetch layout

/-- The empty layout is kept like any other, although there is nothing in it; dropping all layouts makes
    the next request for it compile it again. -/
theorem empty_layout_kept :
    let fresh := initial .universal
    let history : List Request :=
      [.compile "%m", .prepare [], .clear, .format [] (Event.placed none none), .compile "%c"]
    let env := fresh.run history
    List.length env.cache = 2
      ∧ (env.after (.fetch [])).compilations = env.compilations
      ∧ (env.after (.prepare "%m")).compilations = env.compilations + 1
      ∧ (fresh.run [.prepare "%m"]).formatted "%m" (Event.placed none none)
          = env.formatted "%m" (Event.placed none none) := by
  intro fresh history env
  obtain ⟨-, hsame, hlength, hcompiled⟩ := kept_layouts_transparent .universal history
  exact ⟨hlength, hcompiled [] (Event.placed none none) _ (by simp),
    hcompiled "%m" (Event.placed none none) _ (by simp), hsame [.prepare "%m"] rfl _ _⟩

end Environment
end EventLog
