import HrirAtlas.Proofs.Parameters.Check
import HrirAtlas.Proofs.Text.LowerCase

/-
What a load of parameters gives. The defaults name every parameter that the check asks for, so a load
only fails where the check does; and it gives the parameters of all sources as they were merged, with
the channel mode in lower case.
-/

namespace HrirAtlas

variable {α : Type} [Scalar α]

namespace Setting

/-- The value of one key after another got a value. -/
theorem valueOf?_put {name key : String} {value : Setting α} {entries : List (Setting α × Setting α)} :
    valueOf? (put (.text key) value entries) (.text name) =
      if key = name then some value else valueOf? entries (.text name) := by
  unfold valueOf?
  induction entries with
  | nil => by_cases hname : key = name <;> simp [put, sameKey, hname]
  | cons first rest ih =>
    unfold put
    by_cases hfirst : first.1 = .text key
    · by_cases hname : key = name <;> simp [hfirst, hname, sameKey]
    · have hother : first.1.sameKey (.text key) = false := by rwa [Bool.eq_false_iff, Ne, sameKey_text]
      rw [hother, if_neg Bool.false_ne_true, List.find?_cons, List.find?_cons]
      cases hsame : first.1.sameKey (.text name) with
      | true =>
        have hne : key ≠ name := by
          rintro rfl
          rw [hsame] at hother
          cases hother
        simp [hne]
      | false => exact ih

end Setting

namespace Parameters

open Setting

section Loaded

variable {p : Parameters α} {file : Parameters α} {console : List (String × Setting α)} {name key : String}
  {value mode : Setting α} {fftSize truncSize threads outRate : Int}

theorem find?_set : (p.set key value).find? name = if key = name then some value else p.find? name := valueOf?_put

@[simp] theorem find?_set_self : (p.set key value).find? key = some value := by
  rw [find?_set, if_pos rfl]

theorem lowerMode_of_find? (h : p.find? "channel_mode" = some mode) :
    p.lowerMode = .ok (p.set "channel_mode" (.text (Text.lower mode.shown))) := by
  unfold lowerMode
  rw [get_eq_ok.2 h]
  rfl

/-- A load has the parameters of all sources with the channel mode in lower case, if they pass the check. -/
theorem load_eq : load file console = (do
    let p ← (merged file console).lowerMode
    p.check
    return p) := rfl

/-- Every parameter with a default is there. -/
theorem exists_find?_merged (file : Parameters α) (console : List (String × Setting α))
    (h : known (defaults : Parameters α).entries (.text name) = true) :
    ∃ value, (merged file console).find? name = some value := by
  rw [← Option.isSome_iff_exists, find?_isSome]
  exact known_merged file console h

theorem exists_mode (file : Parameters α) (console : List (String × Setting α)) :
    ∃ mode, (merged file console).find? "channel_mode" = some mode :=
  exists_find?_merged file console (by simp [known, defaults])

/-- What a load comes to, once the channel mode is known. -/
theorem load_of_mode (h : (merged file console).find? "channel_mode" = some mode) :
    load file console =
      ((merged file console).set "channel_mode" (.text (Text.lower mode.shown))).check.map fun _ =>
        (merged file console).set "channel_mode" (.text (Text.lower mode.shown)) := by
  rw [load_eq, lowerMode_of_find? h]
  generalize (merged file console).set "channel_mode" (.text (Text.lower mode.shown)) = p
  show (p.check >>= fun _ => .ok p) = _
  cases p.check <;> rfl

theorem integer_set (p : Parameters α) (value : Setting α) (hname : key ≠ name) :
    (p.set key value).integer name = p.integer name := by
  unfold integer get
  rw [find?_set, if_neg hname]

end Loaded

/-! ## Which parameters are loaded -/

section Outcome

variable {file : Parameters α} {console : List (String × Setting α)} {name : String} {p : Parameters α}
  {mode : Setting α} {n fftSize truncSize threads outRate : Int}

/-- The value that the sources choose for a name stands for an integer. -/
def ChosenInteger (file : Parameters α) (console : List (String × Setting α)) (name : String) (n : Int) : Prop :=
  ∃ value, Chosen file console (.text name) value ∧ value.toInt = .ok n

theorem ChosenInteger.integer (hfile : Distinct file.entries) (hconsole : (console.map Prod.fst).Nodup)
    (hknown : known (defaults : Parameters α).entries (.text name) = true) (h : ChosenInteger file console name n) :
    ∃ text, (merged file console).integer name = .ok (n, text) := by
  obtain ⟨value, hchosen, hint⟩ := h
  exact ⟨value.shown, integer_eq_ok.2 ⟨value, find?_merged hfile hconsole hknown hchosen, hint, rfl⟩⟩

theorem Acceptable.lower_iff {mode : String} :
    Acceptable fftSize truncSize threads outRate (Text.lower mode) ↔ Acceptable fftSize truncSize threads outRate mode := by
  constructor <;> rintro ⟨hfft, htrunc, hthreads, hrate, hmode⟩
  · exact ⟨hfft, htrunc, hthreads, hrate, by rwa [Text.lower_lower] at hmode⟩
  · exact ⟨hfft, htrunc, hthreads, hrate, by rwa [Text.lower_lower]⟩

/-- The merged parameters with the channel mode in lower case have their keys and values from the sources. -/
theorem ranked_set_mode (hfile : Distinct file.entries) (hconsole : (console.map Prod.fst).Nodup)
    (hmode : (merged file console).find? "channel_mode" = some mode) :
    Ranked file console ((merged file console).set "channel_mode" (.text (Text.lower mode.shown))) := by
  have hknown : known (merged file console).entries (.text "channel_mode") = true := by
    rw [← find?_isSome, hmode]
    rfl
  constructor
  · exact (keys_put_of_known hknown).trans (keys_merged hfile hconsole)
  · intro key value hmem
    have hmem : (key, value) ∈ put (.text "channel_mode") _ _ := hmem
    rw [put_text (distinct_merged hconsole) hknown] at hmem
    obtain ⟨old, hold, rfl⟩ := mem_revalue.1 hmem
    refine ⟨old, chosen_of_mem hfile hconsole hold, ?_⟩
    unfold lowered
    by_cases hkey : key = .text "channel_mode"
    · subst hkey
      have hold : (merged file console).find? "channel_mode" = some old := valueOf?_text (distinct_merged hconsole) hold
      rw [Option.some.inj (hmode.symm.trans hold)]
      simp
    · simp [hkey]

/-- Where the merged parameters stand for integers, a load has them with the channel mode in lower case if
the integers and the mode are acceptable, and refuses a value otherwise. -/
theorem load_of_integers {fftText truncText threadsText rateText : String}
    (hfft : (merged file console).integer "fft_size" = .ok (fftSize, fftText))
    (htrunc : (merged file console).integer "trunc_size" = .ok (truncSize, truncText))
    (hthreads : (merged file console).integer "threads" = .ok (threads, threadsText))
    (hrate : (merged file console).integer "out_rate" = .ok (outRate, rateText))
    (hmode : (merged file console).find? "channel_mode" = some mode) :
    (Acceptable fftSize truncSize threads outRate mode.shown →
      load file console = .ok ((merged file console).set "channel_mode" (.text (Text.lower mode.shown)))) ∧
      (¬ Acceptable fftSize truncSize threads outRate mode.shown → ∃ cause, load file console = .error (.parameter cause)) := by
  rw [load_of_mode hmode]
  rw [← integer_set _ (.text (Text.lower mode.shown)) (show "channel_mode" ≠ _ by decide)] at hfft htrunc hthreads hrate
  obtain ⟨hpass, hrefuse⟩ := check_of_integers hfft htrunc hthreads hrate find?_set_self
  -- the mode is in lower case when it is checked, and lower case is final
  rw [show (Setting.text (Text.lower mode.shown) : Setting α).shown = Text.lower mode.shown from rfl,
    Acceptable.lower_iff] at hpass hrefuse
  constructor
  · intro h
    rw [hpass h]
    rfl
  · intro h
    obtain ⟨cause, hcheck⟩ := hrefuse h
    rw [hcheck]
    exact ⟨cause, rfl⟩

/-- Parameters whose sizes, threads and rate stand for integers are loaded if the integers and the
channel mode are acceptable, and refused for a wrong value otherwise. What is loaded has its keys and
values from the sources. -/
theorem load_outcome (hfile : Distinct file.entries) (hconsole : (console.map Prod.fst).Nodup)
    (hfft : ChosenInteger file console "fft_size" fftSize) (htrunc : ChosenInteger file console "trunc_size" truncSize)
    (hthreads : ChosenInteger file console "threads" threads) (hrate : ChosenInteger file console "out_rate" outRate) :
    ∃ mode, Chosen file console (.text "channel_mode") mode ∧
      ((∃ p, load file console = .ok p) ↔ Acceptable fftSize truncSize threads outRate mode.shown) ∧
      (¬ Acceptable fftSize truncSize threads outRate mode.shown →
        ∃ cause, load file console = .error cause ∧ cause.kind = .value) ∧
      ∀ p, load file console = .ok p → Ranked file console p := by
  obtain ⟨mode, hmode⟩ := exists_mode file console
  obtain ⟨_, hfft⟩ := hfft.integer hfile hconsole (by simp [known, defaults])
  obtain ⟨_, htrunc⟩ := htrunc.integer hfile hconsole (by simp [known, defaults])
  obtain ⟨_, hthreads⟩ := hthreads.integer hfile hconsole (by simp [known, defaults])
  obtain ⟨_, hrate⟩ := hrate.integer hfile hconsole (by simp [known, defaults])
  obtain ⟨hpass, hrefuse⟩ := load_of_integers hfft htrunc hthreads hrate hmode
  refine ⟨mode, chosen_of_mem hfile hconsole (mem_of_valueOf? hmode), ⟨?_, fun h => ⟨_, hpass h⟩⟩, ?_, ?_⟩
  · rintro ⟨p, hp⟩
    by_contra h
    obtain ⟨cause, hcause⟩ := hrefuse h
    rw [hcause] at hp
    cases hp
  · intro h
    obtain ⟨cause, hcause⟩ := hrefuse h
    exact ⟨_, hcause, rfl⟩
  · intro p hp
    rw [load_of_mode hmode] at hp
    obtain ⟨_, _, rfl⟩ := except_map_ok hp
    exact ranked_set_mode hfile hconsole hmode

/-- A file with a size, a mode and a note of its own. -/
def monoFile : Parameters ℚ :=
  ⟨[(.text "fft_size", .int 1024), (.text "channel_mode", .text "MONO"), (.text "note", .null)]⟩

/-- A command line with one option given, one left out, and one that no source knows. -/
def threadsConsole : List (String × Setting ℚ) := [("threads", .int 3), ("trunc_size", .null), ("unknown", .int 1)]

theorem load_outcome_monoFile : (∃ p, load monoFile threadsConsole = .ok p) ∧
    ∀ p, load monoFile threadsConsole = .ok p → Ranked monoFile threadsConsole p := by
  have hfile : Distinct monoFile.entries := by simp [Distinct, monoFile, sameKey]
  have hconsole : (threadsConsole.map Prod.fst).Nodup := by decide
  have hfree : ∀ name value, name ≠ "threads" → name ≠ "unknown" → (name, value) ∈ threadsConsole → value = .null := by
    simp +contextual [threadsConsole]
  have hmono : Chosen monoFile threadsConsole (.text "channel_mode") (.text "MONO") :=
    .file (by rintro _ value ⟨⟩ h; exact hfree _ _ (by decide) (by decide) h) (by simp [monoFile])
  obtain ⟨mode, hmode, hiff, -, hranked⟩ := @load_outcome ℚ _ monoFile threadsConsole 1024 32 3 0 hfile hconsole
    ⟨.int 1024, .file (by rintro _ value ⟨⟩ h; exact hfree _ _ (by decide) (by decide) h) (by simp [monoFile]), rfl⟩
    ⟨.int 32, .default (by rintro _ value ⟨⟩ h; exact hfree _ _ (by decide) (by decide) h) (by simp [monoFile])
      (by simp [defaults]), rfl⟩
    ⟨.int 3, .console rfl (by simp [threadsConsole]) (by simp), rfl⟩
    ⟨.int 0, .default (by rintro _ value ⟨⟩ h; exact hfree _ _ (by decide) (by decide) h) (by simp [monoFile])
      (by simp [defaults]), rfl⟩
  rw [hmode.unique hfile hconsole hmono] at hiff
  exact ⟨hiff.2 ⟨⟨10, rfl⟩, by decide, by decide, by decide, by decide +kernel⟩, hranked⟩

end Outcome

/-! ## Where the values go -/

section Used

variable {α : Type} [Signal α] {file p : Parameters α} {console : List (String × Setting α)}

/-- What an import is asked for stands for integers in their bounds, and for a channel mode. -/
structure Validated (o : ImportOptions α) : Prop where
  fftSize : ∃ n, o.fftSize.toInt = .ok n ∧ ∃ k : Nat, n = 2 ^ k
  truncSize : ∃ n, o.truncSize.toInt = .ok n ∧ 1 ≤ n
  threads : ∃ n, o.threads.toInt = .ok n ∧ 1 ≤ n
  outRate : ∃ n, o.outRate.toInt = .ok n ∧ 0 ≤ n
  channelMode : o.channelMode = .text "stereo" ∨ o.channelMode = .text "mono"

theorem integer_iff {name : String} {n : Int} :
    ((p.find? name).getD .null).toInt = .ok n ↔ ∃ text, p.integer name = .ok (n, text) := by
  constructor
  · intro h
    cases hfind : p.find? name with
    | none =>
      rw [hfind] at h
      cases h
    | some value =>
      rw [hfind] at h
      exact ⟨value.shown, integer_eq_ok.2 ⟨value, hfind, h, rfl⟩⟩
  · rintro ⟨text, h⟩
    obtain ⟨value, hfind, hint, -⟩ := integer_eq_ok.1 h
    rwa [hfind]

/-- A check that passes has found an integer for each of its numbers. -/
theorem integers_of_check (h : p.check = .ok ()) : ∃ fftSize truncSize threads outRate : Int,
    ∃ fftText truncText threadsText rateText, p.integer "fft_size" = .ok (fftSize, fftText) ∧
      p.integer "trunc_size" = .ok (truncSize, truncText) ∧ p.integer "threads" = .ok (threads, threadsText) ∧
      p.integer "out_rate" = .ok (outRate, rateText) := by
  unfold check at h
  obtain ⟨⟨fftSize, fftText⟩, hfft, h⟩ := except_bind_ok h
  obtain ⟨-, h⟩ := except_guard_ok h
  obtain ⟨⟨truncSize, truncText⟩, htrunc, h⟩ := except_bind_ok h
  obtain ⟨-, h⟩ := except_guard_ok h
  obtain ⟨⟨threads, threadsText⟩, hthreads, h⟩ := except_bind_ok h
  obtain ⟨-, h⟩ := except_guard_ok h
  obtain ⟨⟨outRate, rateText⟩, hrate, h⟩ := except_bind_ok h
  exact ⟨_, _, _, _, _, _, _, _, hfft, htrunc, hthreads, hrate⟩

/-- The check passes parameters exactly if what they ask of an import is in order, once the channel mode
is in lower case. -/
theorem check_eq_ok_iff {mode : String} (hmode : p.find? "channel_mode" = some (.text (Text.lower mode))) :
    p.check = .ok () ↔ Validated (ImportCommand.options p) := by
  constructor
  · intro h
    obtain ⟨fftSize, truncSize, threads, outRate, _, _, _, _, hfft, htrunc, hthreads, hrate⟩ := integers_of_check h
    have haccept : Acceptable fftSize truncSize threads outRate (Text.lower mode) := by
      by_contra hrefused
      obtain ⟨cause, hcause⟩ := (check_of_integers hfft htrunc hthreads hrate hmode).2 hrefused
      rw [h] at hcause
      cases hcause
    have hmodes : Text.lower mode ∈ channelModes := Text.lower_lower mode ▸ haccept.mode
    refine ⟨⟨fftSize, integer_iff.2 ⟨_, hfft⟩, haccept.fftSize⟩, ⟨truncSize, integer_iff.2 ⟨_, htrunc⟩, haccept.truncSize⟩,
      ⟨threads, integer_iff.2 ⟨_, hthreads⟩, haccept.threads⟩, ⟨outRate, integer_iff.2 ⟨_, hrate⟩, haccept.outRate⟩, ?_⟩
    show (p.find? "channel_mode").getD .null = _ ∨ (p.find? "channel_mode").getD .null = _
    rw [hmode]
    simpa [channelModes] using hmodes
  · rintro ⟨⟨fftSize, hfft, hpower⟩, ⟨truncSize, htrunc, hpoints⟩, ⟨threads, hthreads, hsome⟩,
      ⟨outRate, hrate, hnonneg⟩, hstored⟩
    obtain ⟨_, hfft⟩ := integer_iff.1 hfft
    obtain ⟨_, htrunc⟩ := integer_iff.1 htrunc
    obtain ⟨_, hthreads⟩ := integer_iff.1 hthreads
    obtain ⟨_, hrate⟩ := integer_iff.1 hrate
    refine (check_of_integers hfft htrunc hthreads hrate hmode).1 ⟨hpower, hpoints, hsome, hnonneg, ?_⟩
    change (p.find? "channel_mode").getD .null = _ ∨ (p.find? "channel_mode").getD .null = _ at hstored
    rw [hmode] at hstored
    show Text.lower (Text.lower mode) ∈ channelModes
    rw [Text.lower_lower]
    simpa [channelModes] using hstored

/-- Parameters are loaded as they were merged, with the channel mode in lower case, exactly if what they
ask of an import stands for integers in their bounds and for a channel mode. -/
theorem load_eq_ok_iff : load file console = .ok p ↔
    (merged file console).lowerMode = .ok p ∧ Validated (ImportCommand.options p) := by
  obtain ⟨mode, hmode⟩ := exists_mode file console
  rw [load_of_mode hmode, lowerMode_of_find? hmode]
  have hfound : ((merged file console).set "channel_mode" (.text (Text.lower mode.shown))).find? "channel_mode" =
      some (.text (Text.lower mode.shown)) := find?_set_self
  generalize (merged file console).set "channel_mode" (.text (Text.lower mode.shown)) = q at *
  constructor
  · intro h
    obtain ⟨⟨⟩, hcheck, rfl⟩ := except_map_ok h
    exact ⟨rfl, (check_eq_ok_iff hfound).1 hcheck⟩
  · rintro ⟨hq, hvalid⟩
    cases hq
    rw [(check_eq_ok_iff hfound).2 hvalid]
    rfl

/-- A file with a size that is no integer but stands for one. -/
def fractionFile : Parameters ℚ := ⟨[(.text "fft_size", .real 64.7)]⟩

/-- The size is passed on as it was given, and so is no power of two. -/
theorem load_fractionFile : ∃ p, load fractionFile [] = .ok p ∧ (ImportCommand.options p).fftSize = .real 64.7 ∧
    ¬ ∃ n : Int, (ImportCommand.options p).fftSize = .int n := by
  have hmode : (merged fractionFile []).find? "channel_mode" = some (.text "stereo") := rfl
  have hcheck : ((merged fractionFile []).set "channel_mode" (.text (Text.lower "stereo"))).check = .ok () := by
    refine (check_eq_ok_iff rfl).2
      ⟨⟨64, ?_, 6, rfl⟩, ⟨32, rfl, by decide⟩, ⟨2, rfl, by decide⟩, ⟨0, rfl, by decide⟩, .inl ?_⟩
    · decide +kernel
    · rfl
  refine ⟨(merged fractionFile []).set "channel_mode" (.text (Text.lower "stereo")), ?_, rfl, ?_⟩
  · rw [load_of_mode hmode]
    exact congrArg (Except.map _) hcheck
  · rintro ⟨n, h⟩
    cases h

end Used

end Parameters

end HrirAtlas
