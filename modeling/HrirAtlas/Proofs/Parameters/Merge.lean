import HrirAtlas.Parameters
import Mathlib.Tactic

/-
Parameters from several sources. Each source replaces values under the keys that are there already,
in their places; a parameter file also adds its own keys at the end, and the command line adds none.
The keys of a source stand for one value each, so it does not matter in which order a source is gone
through: what a key ends up with is the value of the first source that has one, the command line
before the file and the file before the defaults.
-/

namespace HrirAtlas

variable {α : Type} [Scalar α]

/-! ## Keys -/

namespace Setting

/-- A key that is a text is the same as no other key. -/
@[simp] theorem sameKey_text {key : Setting α} {name : String} : key.sameKey (.text name) = true ↔ key = .text name := by
  cases key <;> simp [sameKey]

@[simp] theorem text_sameKey {key : Setting α} {name : String} : (text name).sameKey key = true ↔ key = .text name := by
  cases key with
  | text s =>
    simp only [sameKey, beq_iff_eq, text.injEq]
    exact eq_comm
  | _ => simp [sameKey]

/-- No key stands twice among the entries. -/
def Distinct (entries : List (Setting α × Setting α)) : Prop :=
  (entries.map Prod.fst).Pairwise fun key other => key.sameKey other = false

/-- Whether a key stands among the entries. -/
def known (entries : List (Setting α × Setting α)) (key : Setting α) : Bool := entries.any fun e => e.1.sameKey key

omit [Scalar α] in
/-- Entries with new values under the keys that have one. -/
def revalue (choice : Setting α → Option (Setting α)) (entries : List (Setting α × Setting α)) :
    List (Setting α × Setting α) :=
  entries.map fun e => (e.1, (choice e.1).getD e.2)

section Revalue

omit [Scalar α]

variable {choice choice' : Setting α → Option (Setting α)} {key value : Setting α} {entries : List (Setting α × Setting α)}

@[simp] theorem keys_revalue : (revalue choice entries).map Prod.fst = entries.map Prod.fst := by
  unfold revalue
  rw [List.map_map]
  rfl

theorem mem_revalue : (key, value) ∈ revalue choice entries ↔ ∃ old, (key, old) ∈ entries ∧ (choice key).getD old = value := by
  simp [revalue]

theorem revalue_congr (h : ∀ e ∈ entries, choice e.1 = choice' e.1) : revalue choice entries = revalue choice' entries :=
  List.map_congr_left fun e he => by rw [h e he]

theorem revalue_of_none (h : ∀ e ∈ entries, choice e.1 = none) : revalue choice entries = entries :=
  (List.map_congr_left fun e he => by rw [h e he, Option.getD_none]; rfl).trans (List.map_id entries)

/-- Of two choices one after the other, the later one has precedence. -/
theorem revalue_revalue : revalue choice' (revalue choice entries) =
    revalue (fun key => (choice' key).or (choice key)) entries := by
  unfold revalue
  rw [List.map_map]
  refine List.map_congr_left fun e _ => ?_
  cases hchoice : choice' e.1 <;> simp [hchoice]

end Revalue

section Put

variable {key value : Setting α} {name : String} {entries changes : List (Setting α × Setting α)}

theorem known_eq_false : known entries key = false ↔ ∀ e ∈ entries, e.1.sameKey key = false := by
  simp [known]

theorem known_text : known entries (.text name) = true ↔ ∃ value, (.text name, value) ∈ entries := by
  simp [known]

theorem known_congr {others : List (Setting α × Setting α)} (h : others.map Prod.fst = entries.map Prod.fst)
    (key : Setting α) : known others key = known entries key := by
  have hany : ∀ l : List (Setting α × Setting α), known l key = (l.map Prod.fst).any (·.sameKey key) := by
    intro l
    simp [known, Function.comp_def]
  rw [hany, hany, h]

theorem Distinct.congr {others : List (Setting α × Setting α)} (h : Distinct entries)
    (hkeys : others.map Prod.fst = entries.map Prod.fst) : Distinct others := by
  unfold Distinct
  rwa [hkeys]

/-- A key is put where it stands first. -/
theorem put_append : put key value (entries ++ changes) =
    if known entries key = true then put key value entries ++ changes else entries ++ put key value changes := by
  induction entries with
  | nil => rfl
  | cons first rest ih =>
    unfold known at ih ⊢
    by_cases hfirst : first.1.sameKey key = true
    · simp [put, hfirst]
    · by_cases hrest : rest.any (·.1.sameKey key) = true <;> simp [put, hfirst, hrest, ih]

/-- A key that is not there yet goes to the end. -/
theorem put_of_new (h : known entries key = false) : put key value entries = entries ++ [(key, value)] := by
  have happend : put key value (entries ++ []) = _ := put_append
  rw [List.append_nil, h, if_neg Bool.false_ne_true] at happend
  exact happend

/-- A key that is there keeps its place. -/
theorem keys_put_of_known (h : known entries key = true) :
    (put key value entries).map Prod.fst = entries.map Prod.fst := by
  induction entries with
  | nil => simp [known] at h
  | cons first rest ih =>
    by_cases hfirst : first.1.sameKey key = true
    · simp [put, hfirst]
    · have hrest : known rest key = true := by simpa [known, hfirst] using h
      simp [put, hfirst, ih hrest]

/-- A text that is there gets its value, and all else stays. -/
theorem put_text (hd : Distinct entries) (h : known entries (.text name) = true) :
    put (.text name) value entries = revalue (fun key => if key.sameKey (.text name) then some value else none) entries := by
  induction entries with
  | nil => simp [known] at h
  | cons first rest ih =>
    unfold Distinct at hd
    rw [List.map_cons, List.pairwise_cons] at hd
    obtain ⟨hother, hrest⟩ := hd
    by_cases hfirst : first.1 = .text name
    · -- no other entry has the key, so none of the others changes
      have hsame : revalue (fun key => if key.sameKey (.text name) then some value else none) rest = rest := by
        refine revalue_of_none fun e he => if_neg fun hkey => ?_
        have hdiffer := hother e.1 (List.mem_map_of_mem he)
        rw [sameKey_text.1 hkey, Bool.eq_false_iff, Ne, sameKey_text] at hdiffer
        exact hdiffer hfirst
      unfold revalue at hsame ⊢
      simp [put, hfirst, hsame]
    · have hknown : known rest (.text name) = true := by simpa [known, hfirst] using h
      unfold revalue at ih ⊢
      simp [put, hfirst, ih hrest hknown]

theorem distinct_put (h : Distinct entries) : Distinct (put key value entries) := by
  cases hknown : known entries key with
  | true => exact h.congr (keys_put_of_known hknown)
  | false =>
    rw [put_of_new hknown]
    unfold Distinct at h ⊢
    rw [List.map_append, List.pairwise_append]
    refine ⟨h, List.pairwise_singleton _ _, fun a ha b hb => ?_⟩
    obtain ⟨e, he, rfl⟩ := List.mem_map.1 ha
    obtain rfl : b = key := by simpa using hb
    exact known_eq_false.1 hknown e he

theorem known_put (h : known entries (.text name) = true) : known (put key value entries) (.text name) = true := by
  cases hknown : known entries key with
  | true => rw [known_congr (keys_put_of_known hknown), h]
  | false =>
    rw [put_of_new hknown]
    simp only [known, List.any_append] at h ⊢
    rw [h, Bool.true_or]

end Put

/-! ## Entries one after another -/

/-- The value that entries give a key. -/
def valueOf? (entries : List (Setting α × Setting α)) (key : Setting α) : Option (Setting α) :=
  (entries.find? fun e => e.1.sameKey key).map Prod.snd

/-- Entries with changes put in one after another. -/
def putAll (entries changes : List (Setting α × Setting α)) : List (Setting α × Setting α) :=
  changes.foldl (fun entries (key, value) => put key value entries) entries

section PutAll

variable {key value : Setting α} {name : String} {entries changes : List (Setting α × Setting α)}

theorem valueOf?_text (hd : Distinct entries) (h : (.text name, value) ∈ entries) :
    valueOf? entries (.text name) = some value := by
  unfold valueOf?
  induction entries with
  | nil => cases h
  | cons first rest ih =>
    unfold Distinct at hd
    rw [List.map_cons, List.pairwise_cons] at hd
    obtain ⟨hother, hrest⟩ := hd
    rcases List.mem_cons.1 h with rfl | h
    · simp
    · have hne : first.1.sameKey (.text name) = false := hother _ (List.mem_map_of_mem h)
      simpa [List.find?_cons, hne] using ih hrest h

theorem mem_of_valueOf? (h : valueOf? entries (.text name) = some value) : (.text name, value) ∈ entries := by
  obtain ⟨e, hfound, rfl⟩ := Option.map_eq_some_iff.1 h
  have hsame := List.find?_some hfound
  rw [sameKey_text] at hsame
  rw [← hsame]
  exact List.mem_of_find?_eq_some hfound

theorem valueOf?_of_new (h : known entries key = false) : valueOf? entries key = none := by
  unfold valueOf?
  rw [Option.map_eq_none_iff, List.find?_eq_none]
  intro e he
  simp [known_eq_false.1 h e he]

theorem valueOf?_append (entries changes : List (Setting α × Setting α)) (key : Setting α) :
    valueOf? (entries ++ changes) key = (valueOf? entries key).or (valueOf? changes key) := by
  unfold valueOf?
  rw [List.find?_append, Option.map_or]

/-- Entries that were put one after another have no key twice. -/
theorem distinct_putAll (changes : List (Setting α × Setting α)) (h : Distinct entries) :
    Distinct (putAll entries changes) := by
  induction changes generalizing entries with
  | nil => exact h
  | cons first rest ih => exact ih (distinct_put h)

theorem known_putAll (changes : List (Setting α × Setting α)) (h : known entries (.text name) = true) :
    known (putAll entries changes) (.text name) = true := by
  induction changes generalizing entries with
  | nil => exact h
  | cons first rest ih => exact ih (known_put h)

theorem valueOf?_singleton (last : Setting α × Setting α) (key : Setting α) :
    valueOf? [last] key = if last.1.sameKey key = true then some last.2 else none := by
  cases hsame : last.1.sameKey key <;> simp [valueOf?, hsame]

/-- A text that is there gets its value from the last change. -/
theorem put_revalue (hd : Distinct entries) (hknown : known entries (.text name) = true)
    (hnew : known changes (.text name) = false) : put (.text name) value (revalue (valueOf? changes) entries) =
      revalue (valueOf? (changes ++ [(.text name, value)])) entries := by
  rw [put_text (hd.congr keys_revalue) ((known_congr keys_revalue _).trans hknown), revalue_revalue]
  refine revalue_congr fun e _ => ?_
  rw [valueOf?_append, valueOf?_singleton]
  by_cases hkey : e.1 = .text name
  · simp [hkey, valueOf?_of_new hnew]
  · simp [hkey]

/-- A change of a key that is not there leaves the values as they are. -/
theorem revalue_of_unknown {last : Setting α × Setting α} (htexts : ∀ e ∈ entries, ∃ name, e.1 = .text name)
    (hknown : known entries last.1 = false) :
    revalue (valueOf? (changes ++ [last])) entries = revalue (valueOf? changes) entries := by
  refine revalue_congr fun e he => ?_
  obtain ⟨name, hname⟩ := htexts e he
  have hdiffer : last.1.sameKey e.1 ≠ true := by
    intro hsame
    rw [hname, sameKey_text] at hsame
    have hfree := known_eq_false.1 hknown e he
    rw [hsame, hname, Bool.eq_false_iff, Ne, sameKey_text] at hfree
    exact hfree rfl
  rw [valueOf?_append, valueOf?_singleton, if_neg hdiffer, Option.or_none]

/-- Changes replace the values of texts that are there, and add all other keys in their order. -/
theorem putAll_eq (htexts : ∀ e ∈ entries, ∃ name, e.1 = .text name) (hd : Distinct entries) (hchanges : Distinct changes) :
    putAll entries changes = revalue (valueOf? changes) entries ++ changes.filter fun e => !known entries e.1 := by
  induction changes using List.reverseRecOn with
  | nil => simp [putAll, revalue, valueOf?]
  | append_singleton done last ih =>
    unfold Distinct at hchanges
    rw [List.map_append, List.pairwise_append] at hchanges
    obtain ⟨hdone, -, hapart⟩ := hchanges
    have hnew : known done last.1 = false := known_eq_false.2 fun e he =>
      hapart e.1 (List.mem_map_of_mem he) last.1 (List.mem_map_of_mem List.mem_cons_self)
    have hput : putAll entries (done ++ [last]) = put last.1 last.2 (putAll entries done) := List.foldl_append
    rw [hput, ih hdone, put_append, known_congr keys_revalue, List.filter_append]
    cases hknown : known entries last.1 with
    | true =>
      obtain ⟨key, value⟩ := last
      obtain ⟨e, he, hsame⟩ := List.any_eq_true.1 hknown
      obtain ⟨name, hname⟩ := htexts e he
      obtain rfl : key = .text name := text_sameKey.1 (hname ▸ hsame)
      simp [put_revalue hd hknown hnew, hknown]
    | false =>
      have hrest : known (done.filter fun e => !known entries e.1) last.1 = false :=
        known_eq_false.2 fun e he => known_eq_false.1 hnew e (List.mem_filter.1 he).1
      simp [revalue_of_unknown htexts hknown, put_of_new hrest, hknown]

end PutAll

end Setting

namespace Parameters

open Setting

/-! ## The command line -/

/-- A value that is given, which null is not. -/
def given : Setting α → Option (Setting α)
  | .null => none
  | value => some value

/-- The value that the command line gives a key. -/
def optionOf? (console : List (String × Setting α)) (key : Setting α) : Option (Setting α) :=
  (console.find? fun o => key.sameKey (.text o.1)).bind fun o => given o.2

section Override

variable {p : Parameters α} {name : String} {value : Setting α} {console : List (String × Setting α)}

omit [Scalar α] in
theorem given_eq_some {found : Setting α} : given value = some found ↔ value = found ∧ value ≠ .null := by
  cases value <;> simp [given]

omit [Scalar α] in
theorem given_eq_none : given value = none ↔ value = .null := by
  cases value <;> simp [given]

theorem find?_isSome : (p.find? name).isSome = known p.entries (.text name) := by
  unfold find? known
  rw [Option.isSome_map, List.isSome_find?]

/-- An option replaces the value of its name where that is known. -/
theorem override_entries (name : String) (value : Setting α) (hd : Distinct p.entries) : (p.override (name, value)).entries =
    revalue (fun key => if key.sameKey (.text name) then given value else none) p.entries := by
  unfold override
  split
  · rename_i hnull
    rw [revalue_of_none]
    intro e _
    rw [show value = .null from hnull]
    exact ite_self none
  · rename_i hunknown _
    have hknown : known p.entries (.text name) = false := by
      rw [← find?_isSome, show p.find? name = none from hunknown]
      rfl
    rw [revalue_of_none]
    intro e he
    rw [known_eq_false.1 hknown e he, if_neg Bool.false_ne_true]
  · rename_i hfound hvalue
    have hknown : known p.entries (.text name) = true := by
      rw [← find?_isSome, show p.find? name = some _ from hfound]
      rfl
    have hgiven : given value = some value := given_eq_some.2 ⟨rfl, fun hnull => hvalue hnull⟩
    rw [hgiven]
    exact put_text hd hknown

theorem optionOf?_cons (key : Setting α) : optionOf? ((name, value) :: console) key =
    if key.sameKey (.text name) then given value else optionOf? console key := by
  unfold optionOf?
  rw [List.find?_cons]
  cases key.sameKey (.text name) <;> rfl

theorem optionOf?_of_mem (hconsole : (console.map Prod.fst).Nodup) (h : (name, value) ∈ console) :
    optionOf? console (.text name) = given value := by
  induction console with
  | nil => cases h
  | cons first rest ih =>
    obtain ⟨other, found⟩ := first
    rw [List.map_cons, List.nodup_cons] at hconsole
    rcases List.mem_cons.1 h with h | h
    · cases h
      simp [optionOf?_cons]
    · have hne : other ≠ name := fun he => hconsole.1 (List.mem_map.2 ⟨(name, value), h, he.symm⟩)
      simpa [optionOf?_cons, Ne.symm hne] using ih hconsole.2 h

theorem optionOf?_of_not_mem (h : name ∉ console.map Prod.fst) : optionOf? console (.text name) = none := by
  unfold optionOf?
  rw [List.find?_eq_none.2, Option.bind_none]
  intro o ho hsame
  have hname := sameKey_text.1 hsame
  simp only [text.injEq] at hname
  exact h (hname ▸ List.mem_map_of_mem ho)

theorem mem_of_optionOf? {key : Setting α} (h : optionOf? console key = some value) :
    ∃ name, key = .text name ∧ (name, value) ∈ console ∧ value ≠ .null := by
  obtain ⟨⟨name, found⟩, hfound, hgiven⟩ := Option.bind_eq_some_iff.1 h
  obtain ⟨rfl, hnull⟩ := given_eq_some.1 hgiven
  have hkey := List.find?_some hfound
  rw [sameKey_text] at hkey
  exact ⟨name, hkey, List.mem_of_find?_eq_some hfound, hnull⟩

/-- Options with different names replace the values of those that are known. -/
theorem overrideAll_entries (hconsole : (console.map Prod.fst).Nodup) (hd : Distinct p.entries) :
    (console.foldl override p).entries = revalue (optionOf? console) p.entries := by
  induction console generalizing p with
  | nil => exact (revalue_of_none fun _ _ => rfl).symm
  | cons first rest ih =>
    obtain ⟨name, value⟩ := first
    rw [List.map_cons, List.nodup_cons] at hconsole
    have hentries := override_entries name value hd
    have hkeys : (p.override (name, value)).entries.map Prod.fst = p.entries.map Prod.fst := by
      rw [hentries, keys_revalue]
    rw [List.foldl_cons, ih hconsole.2 (hd.congr hkeys), hentries, revalue_revalue]
    refine revalue_congr fun e _ => ?_
    rw [optionOf?_cons]
    by_cases hkey : e.1 = .text name
    · simp [hkey, optionOf?_of_not_mem hconsole.1]
    · simp [hkey]

end Override

/-! ## All sources -/

/-- The parameters of all sources. -/
def merged (file : Parameters α) (console : List (String × Setting α)) : Parameters α :=
  console.foldl override (defaults.update file.entries)

/-- The value that the sources choose for a key: that of the command line, if there is one other than
null, else that of the file, else the default. -/
inductive Chosen (file : Parameters α) (console : List (String × Setting α)) (key : Setting α) : Setting α → Prop
  | console {name : String} {value : Setting α} (hkey : key = .text name) (hgiven : (name, value) ∈ console)
    (hvalue : value ≠ .null) : Chosen file console key value
  | file {value : Setting α} (hfree : ∀ name value, key = .text name → (name, value) ∈ console → value = .null)
    (hgiven : (key, value) ∈ file.entries) : Chosen file console key value
  | default {value : Setting α} (hfree : ∀ name value, key = .text name → (name, value) ∈ console → value = .null)
    (habsent : ∀ value, (key, value) ∉ file.entries) (hgiven : (key, value) ∈ defaults.entries) :
    Chosen file console key value

section Merged

variable {file : Parameters α} {console : List (String × Setting α)} {key value : Setting α} {name : String}

omit [Scalar α] in
theorem defaults_texts : ∀ e ∈ (defaults : Parameters α).entries, ∃ name, e.1 = .text name := by
  simp [defaults]

theorem distinct_defaults : Distinct (defaults : Parameters α).entries := by
  simp [Distinct, defaults, sameKey]

/-- The keys of the file that no default has follow the defaults, and each key has its value. -/
theorem merged_entries (hfile : Distinct file.entries) (hconsole : (console.map Prod.fst).Nodup) :
    (merged file console).entries = revalue (optionOf? console)
      (revalue (valueOf? file.entries) defaults.entries ++ file.entries.filter fun e => !known defaults.entries e.1) := by
  have hupdate : (defaults.update file.entries).entries = putAll defaults.entries file.entries := rfl
  unfold merged
  rw [overrideAll_entries hconsole (by rw [hupdate]; exact distinct_putAll _ distinct_defaults), hupdate,
    putAll_eq defaults_texts distinct_defaults hfile]

theorem keys_merged (hfile : Distinct file.entries) (hconsole : (console.map Prod.fst).Nodup) :
    (merged file console).entries.map Prod.fst =
      defaults.entries.map Prod.fst ++ (file.entries.map Prod.fst).filter fun key => !known defaults.entries key := by
  rw [merged_entries hfile hconsole, keys_revalue, List.map_append, keys_revalue, List.filter_map]
  rfl

theorem distinct_merged (hconsole : (console.map Prod.fst).Nodup) :
    Distinct (merged file console).entries := by
  have hupdate : Distinct (defaults.update file.entries).entries := distinct_putAll file.entries distinct_defaults
  refine hupdate.congr ?_
  unfold merged
  rw [overrideAll_entries hconsole hupdate, keys_revalue]

/-- Each entry has the value that the sources choose. -/
theorem chosen_of_mem (hfile : Distinct file.entries) (hconsole : (console.map Prod.fst).Nodup)
    (h : (key, value) ∈ (merged file console).entries) : Chosen file console key value := by
  rw [merged_entries hfile hconsole, mem_revalue] at h
  obtain ⟨old, hmem, hvalue⟩ := h
  cases hoption : optionOf? console key with
  | some chosen =>
    rw [hoption, Option.getD_some] at hvalue
    subst hvalue
    obtain ⟨name, hkey, hgiven, hnull⟩ := mem_of_optionOf? hoption
    exact .console hkey hgiven hnull
  | none =>
    rw [hoption, Option.getD_none] at hvalue
    subst hvalue
    have hfree : ∀ name value, key = .text name → (name, value) ∈ console → value = .null := by
      rintro name value rfl hmem
      rw [optionOf?_of_mem hconsole hmem] at hoption
      exact given_eq_none.1 hoption
    rcases List.mem_append.1 hmem with hmem | hmem
    · obtain ⟨fallback, hdefault, hvalue⟩ := mem_revalue.1 hmem
      obtain ⟨name, rfl⟩ : ∃ name, key = .text name := defaults_texts _ hdefault
      cases hfiled : valueOf? file.entries (.text name) with
      | some found =>
        rw [hfiled, Option.getD_some] at hvalue
        subst hvalue
        exact .file hfree (mem_of_valueOf? hfiled)
      | none =>
        rw [hfiled, Option.getD_none] at hvalue
        subst hvalue
        refine .default hfree (fun other hother => ?_) hdefault
        rw [valueOf?_text hfile hother] at hfiled
        cases hfiled
    · exact .file hfree (List.mem_filter.1 hmem).1

/-- The sources choose one value for a name. -/
theorem Chosen.unique (hfile : Distinct file.entries) (hconsole : (console.map Prod.fst).Nodup) {other : Setting α}
    (h : Chosen file console (.text name) value) (h' : Chosen file console (.text name) other) : value = other := by
  cases h with
  | console hkey hgiven hvalue =>
    cases hkey
    cases h' with
    | console hkey' hgiven' hvalue' =>
      cases hkey'
      have hsame := (optionOf?_of_mem hconsole hgiven).symm.trans (optionOf?_of_mem hconsole hgiven')
      rw [given_eq_some.2 ⟨rfl, hvalue⟩, given_eq_some.2 ⟨rfl, hvalue'⟩] at hsame
      exact Option.some.inj hsame
    | file hfree => exact absurd (hfree _ _ rfl hgiven) hvalue
    | default hfree => exact absurd (hfree _ _ rfl hgiven) hvalue
  | file hfree hgiven =>
    cases h' with
    | console hkey hgiven' hvalue => exact absurd (hfree _ _ hkey hgiven') hvalue
    | file _ hgiven' => exact Option.some.inj ((valueOf?_text hfile hgiven).symm.trans (valueOf?_text hfile hgiven'))
    | default _ habsent => exact absurd hgiven (habsent _)
  | default hfree habsent hgiven =>
    cases h' with
    | console hkey hgiven' hvalue => exact absurd (hfree _ _ hkey hgiven') hvalue
    | file _ hgiven' => exact absurd hgiven' (habsent _)
    | default _ _ hgiven' =>
      exact Option.some.inj ((valueOf?_text distinct_defaults hgiven).symm.trans (valueOf?_text distinct_defaults hgiven'))

theorem known_merged (file : Parameters α) (console : List (String × Setting α))
    (h : known (defaults : Parameters α).entries (.text name) = true) :
    known (merged file console).entries (.text name) = true := by
  unfold merged
  have hupdate : known (defaults.update file.entries).entries (.text name) = true := known_putAll file.entries h
  generalize defaults.update file.entries = p at hupdate
  induction console generalizing p with
  | nil => exact hupdate
  | cons first rest ih =>
    refine ih _ ?_
    unfold override
    split
    · exact hupdate
    · exact hupdate
    · exact known_put hupdate

/-- What the sources choose for the name of a default is its value. -/
theorem find?_merged (hfile : Distinct file.entries) (hconsole : (console.map Prod.fst).Nodup)
    (hknown : known (defaults : Parameters α).entries (.text name) = true) (h : Chosen file console (.text name) value) :
    (merged file console).find? name = some value := by
  obtain ⟨found, hfound⟩ := known_text.1 (known_merged file console hknown)
  rw [h.unique hfile hconsole (chosen_of_mem hfile hconsole hfound)]
  exact valueOf?_text (distinct_merged hconsole) hfound

end Merged

/-! ## The channel mode -/

/-- The value under a key once the channel mode is known by its lower case. -/
def lowered (key value : Setting α) : Setting α :=
  if key.sameKey (.text "channel_mode") then .text (Text.lower value.shown) else value

/-- The parameters have the keys of the defaults and after them those that only the file has, in its
order, and each key has the value that the sources choose. -/
structure Ranked (file : Parameters α) (console : List (String × Setting α)) (p : Parameters α) : Prop where
  keys : p.entries.map Prod.fst =
    defaults.entries.map Prod.fst ++ (file.entries.map Prod.fst).filter fun key => !known defaults.entries key
  values : ∀ key value, (key, value) ∈ p.entries → ∃ chosen, Chosen file console key chosen ∧ value = lowered key chosen

end Parameters

end HrirAtlas
