import EventLog.Proofs.Path.Below
import EventLog.Proofs.Rendering.History

set_option autoImplicit false

/-! # Files relative to a base directory

A source that looks at the call stack shows the file of a frame relative to its base directory only if the
file lies below it, component by component: a file next to the directory is shown as it is, however its
name starts (`shown_relative_only_below`). The other way round, each file below the directory is shown
relative to it, except below a root directory. Of this the absolute path ends with a slash already, and the
slash that is looked for behind it is never found (`shown_relative_iff_not_root`). -/

namespace EventLog

namespace LocationSource

variable {depth : Int} {directory : Text} {source : LocationSource} {e : Event} {f : Frame}

/-! ## The name that is shown -/

/-- The place of a frame is answered, with its file as the base directory makes it. -/
theorem answer_of_frame {base : Option Text} (hs : ofCallStack depth base directory = .ok source)
    (hf : frameAt? e.stack depth.toNat = some f) (calls : Nat) :
    source.answer calls e = .found (ofFrame (absoluteBase directory base) directory f) := by
  unfold ofCallStack at hs
  split at hs
  · cases hs
  · obtain rfl := Except.ok.inj hs
    simp only [answer, hf]

theorem shownFile_of_ne_nil {base : Text} (h : base ≠ []) (file : Text) :
    shownFile (absoluteBase directory (some base)) directory file
      = (Path.relativeTo? (Path.absolute directory base) (Path.absolute directory file)).getD file := by
  obtain ⟨c, name, rfl⟩ := List.exists_cons_of_ne_nil h
  rfl

/-- A name that is not the file's own is what follows the base directory. -/
theorem relativeTo?_of_shownFile {base file name : Text}
    (h : shownFile (absoluteBase directory (some base)) directory file = name) (hn : name ≠ file) :
    Path.relativeTo? (Path.absolute directory base) (Path.absolute directory file) = some name := by
  by_cases hb : base = []
  · subst hb
    exact absurd h.symm hn
  · rw [shownFile_of_ne_nil hb] at h
    rcases hr : Path.relativeTo? (Path.absolute directory base) (Path.absolute directory file)
      with _ | rest
    · rw [hr, Option.getD_none] at h
      exact absurd h.symm hn
    · rw [hr, Option.getD_some] at h
      rw [h]

/-! ## Only below the base directory -/

/-- A frame of the call stack is shown with a name for its file, where the base directory has another
    absolute path than `/`:

    1. If the name is not the file's own, the file lies below the base directory. The name is not empty,
       starts with no slash, and has no part that is empty or a way to stay or to go up. Base directory,
       slash and name make up the absolute path of the file.
    2. So a file that does not lie below it keeps its own name.
    3. One such file is the base directory itself, or one whose path only starts with the same characters. -/
theorem shown_relative_only_below {base : Text}
    (hs : ofCallStack depth (some base) directory = .ok source)
    (hr : Path.absolute directory base ≠ ['/'])
    (hf : frameAt? e.stack depth.toNat = some f) (calls : Nat) :
    ∃ l name, source.answer calls e = .found l ∧ l.file = some name
      ∧ (name ≠ f.file →
          (Path.ofName directory f.file).IsBelow (Path.ofName directory base)
          ∧ name ≠ [] ∧ name.head? ≠ some '/'
          ∧ (∀ part ∈ Text.parts '/' name, part ≠ [] ∧ part ≠ ['.'] ∧ part ≠ ['.', '.'])
          ∧ Path.absolute directory base ++ '/' :: name = Path.absolute directory f.file)
      ∧ (¬ (Path.ofName directory f.file).IsBelow (Path.ofName directory base) → name = f.file)
      ∧ ∀ more, Path.absolute directory f.file = Path.absolute directory base ++ more →
          more.head? ≠ some '/' → name = f.file := by
  refine ⟨_, _, answer_of_frame hs hf calls, rfl, fun hn => ?_, fun hnot => ?_, fun more hm hhead => ?_⟩
  · have hrest := relativeTo?_of_shownFile rfl hn
    obtain ⟨hbelow, hproper⟩ := Path.isBelow_of_relativeTo? hr hrest
    obtain ⟨hne, hhead⟩ := Text.head?_ne_of_parts_ne_nil fun part hm => (hproper part hm).1
    refine ⟨hbelow, hne, hhead, fun part hm => ?_, (Path.relativeTo?_eq_some_iff.1 hrest).symm⟩
    obtain ⟨hempty, hdot, hdots, -⟩ := hproper part hm
    exact ⟨hempty, hdot, hdots⟩
  · refine Decidable.byContradiction fun hn => hnot ?_
    exact (Path.isBelow_of_relativeTo? hr (relativeTo?_of_shownFile rfl hn)).1
  · refine Decidable.byContradiction fun hn => hhead ?_
    have hrest := Path.relativeTo?_eq_some_iff.1 (relativeTo?_of_shownFile rfl hn)
    rw [hm, List.append_right_inj] at hrest
    rw [hrest, List.head?_cons]

/-- The base directory is written with a slash too many, and the files from another working directory. Of
    a file beside the base directory and of one that leaves it again, the own name is shown. -/
theorem shown_relative_only_below_spellings :
    let source : LocationSource := .callStack 1 (some "/srv/app") "/home"
    let frame (file : Text) : Frame := ⟨file, some 3, "run", none⟩
    let event (file : Text) : Event := { Event.placed none none with stack := [frame file] }
    let shows (file name : Text) : Prop :=
      ∃ l, source.answer 0 (event file) = .found l ∧ l.file = some name
    (ofCallStack 1 (some "/srv//app/") "/home" = .ok source
        ∧ Path.absolute "/home" "/srv//app/" ≠ ['/']
        ∧ ∀ file, frameAt? (event file).stack 1 = some (frame file))
      ∧ shows "../srv/./app//lib/log.py" "lib/log.py"
      ∧ Path.IsBelow (Path.ofName "/home" "../srv/./app//lib/log.py") (Path.ofName "/home" "/srv//app/")
      ∧ shows "../srv/application/log.py" "../srv/application/log.py"
      ∧ shows "/srv/app/../log.py" "/srv/app/../log.py" := by
  intro source frame event shows
  have hs : ofCallStack 1 (some "/srv//app/") "/home" = .ok source := rfl
  have hr : Path.absolute "/home" "/srv//app/" ≠ ['/'] := by decide
  have hf : ∀ file, frameAt? (event file).stack 1 = some (frame file) := fun _ => rfl
  refine ⟨⟨hs, hr, hf⟩, ⟨_, rfl, rfl⟩, ?_, ?_, ?_⟩
  · obtain ⟨l, name, ha, hl, hbelow, -⟩ :=
      shown_relative_only_below hs hr (hf "../srv/./app//lib/log.py") 0
    obtain rfl := Lookup.found.inj ha
    obtain rfl := Option.some.inj hl
    exact (hbelow (by decide)).1
  · obtain ⟨l, name, ha, hl, -, -, hbeside⟩ :=
      shown_relative_only_below hs hr (hf "../srv/application/log.py") 0
    have hname := hbeside "lication/log.py" (by decide) (by decide)
    exact ⟨l, ha, hl.trans (congrArg some hname)⟩
  · obtain ⟨l, name, ha, hl, -, hkept, -⟩ :=
      shown_relative_only_below hs hr (hf "/srv/app/../log.py") 0
    exact ⟨l, ha, hl.trans (congrArg some (hkept (by decide)))⟩

/-! ## Every file below the base directory -/

/-- A frame of the call stack whose file lies below the base directory, with `part :: rest` behind the parts
    of the directory:

    1. It is shown with these parts as the name of its file, except that below a root directory the file
       keeps its own name.
    2. So these parts are shown if and only if the directory has a part, or they are the file's own name. -/
theorem shown_relative_iff_not_root {base : Text}
    (hs : ofCallStack depth (some base) directory = .ok source) (hb : base ≠ [])
    (hf : frameAt? e.stack depth.toNat = some f) {part : Text} {rest : List Text}
    (hslashes : (Path.ofName directory f.file).slashes = (Path.ofName directory base).slashes)
    (hparts : (Path.ofName directory f.file).parts
      = (Path.ofName directory base).parts ++ part :: rest) (calls : Nat) :
    ∃ l name, source.answer calls e = .found l ∧ l.file = some name
      ∧ name = (if (Path.ofName directory base).parts = [] then f.file
          else Text.join ['/'] (part :: rest))
      ∧ (name = Text.join ['/'] (part :: rest)
          ↔ (Path.ofName directory base).parts ≠ [] ∨ f.file = Text.join ['/'] (part :: rest)) := by
  have hname : shownFile (absoluteBase directory (some base)) directory f.file
      = if (Path.ofName directory base).parts = [] then f.file else Text.join ['/'] (part :: rest) := by
    rw [shownFile_of_ne_nil hb, Path.absolute, Path.absolute]
    split
    · rename_i hroot
      rw [Path.relativeTo?_of_root hroot (Nat.le_of_eq hslashes), Option.getD_none]
    · rename_i hroot
      rw [Path.relativeTo?_of_isBelow hroot hslashes hparts, Option.getD_some]
  refine ⟨_, _, answer_of_frame hs hf calls, rfl, hname, ?_⟩
  rw [hname]
  split
  · rename_i hroot
    simp [hroot]
  · rename_i hroot
    simp [hroot]

/-- The base directory goes up behind a root with two slashes and comes down again. -/
theorem shown_relative_iff_not_root_two_slashes :
    let source : LocationSource := .callStack 2 (some "//net/app") "//net/home"
    let f : Frame := ⟨"../app/../app/lib/./log.py", none, "run", none⟩
    let e : Event := { Event.placed none none with stack := [f, ⟨"main.py", some 1, "main", none⟩] }
    let p := Path.ofName "//net/home" f.file
    let base := Path.ofName "//net/home" "//../net/app"
    (ofCallStack 2 (some "//../net/app") "//net/home" = .ok source ∧ frameAt? e.stack 2 = some f
        ∧ p.slashes = base.slashes ∧ p.parts = base.parts ++ ["lib".toList, "log.py".toList])
      ∧ ∃ l name, source.answer 0 e = .found l ∧ l.file = some name ∧ name = "lib/log.py".toList := by
  intro source f e p base
  have hs : ofCallStack 2 (some "//../net/app") "//net/home" = .ok source := rfl
  have hparts : p.parts = base.parts ++ ["lib".toList, "log.py".toList] := by decide
  have hf : frameAt? e.stack 2 = some f := rfl
  obtain ⟨l, name, ha, hl, -, hiff⟩ := shown_relative_iff_not_root hs (by decide) hf rfl hparts 0
  exact ⟨⟨hs, hf, rfl, hparts⟩, l, name, ha, hl, hiff.2 (Or.inl (by decide))⟩

/-- Below the root directory a file is shown with its absolute path. -/
theorem absolute_shown_below_root :
    let f : Frame := ⟨"/app/main.py", some 1, "main", none⟩
    let e : Event := { Event.placed none none with stack := [f] }
    let p := Path.ofName "/" f.file
    let base := Path.ofName "/" "/"
    let below : List Text := ["app", "main.py"]
    p.slashes = base.slashes ∧ p.parts = base.parts ++ below
      ∧ ∃ source l, ofCallStack 1 (some "/") "/" = .ok source ∧ source.answer 0 e = .found l
        ∧ l.file = some "/app/main.py" ∧ l.file ≠ some (Text.join ['/'] below) :=
  ⟨rfl, by decide, _, _, rfl, rfl, rfl, by decide⟩

end LocationSource
end EventLog
