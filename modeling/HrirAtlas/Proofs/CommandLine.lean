import HrirAtlas.CommandLine
import HrirAtlas.Proofs.Stage

/-
What a command line gives. Every switch and operand keeps its place among the values, used or not, and
what stands there is of one of the few kinds that an argument can be read as. So the values have the
keys of the grammar, each once if the grammar has it once, and none of them is a fraction.
-/

namespace HrirAtlas.CommandLine

variable {α : Type}

/-- A value that an argument can stand for. -/
inductive Plain : Setting α → Prop
  | null : Plain .null
  | on : Plain (.flag true)
  | text (s : String) : Plain (.text s)
  | int (n : Int) : Plain (.int n)

/-- The keys of a grammar: those of its operands and those of its switches, except the one for help. -/
def Grammar.keys (g : Grammar α) : List String := g.operands ++ (g.switches.filter (·.kind != .help)).map Switch.key

namespace Parsed

/-- What is known has the given keys, and plain values. -/
structure Keeps (keys : List String) (p : Parsed α) : Prop where
  keys : p.values.map Prod.fst = keys
  plain : ∀ e ∈ p.values, Plain e.2

variable {g : Grammar α} {keys : List String} {p q : Parsed α} {key : String} {value : Setting α} {s : Switch α}
  {taken : List (Switch α × Option String)} {words : List (String × Word α)}

/-! ## One argument -/

theorem Keeps.store (h : Keeps keys p) (hvalue : Plain value) : Keeps keys (p.store key value) := by
  unfold Parsed.store
  constructor
  · rw [← h.keys, List.map_map]
    refine List.map_congr_left fun e _ => ?_
    by_cases hkey : e.1 = key <;> simp [hkey]
  · intro e he
    obtain ⟨old, hold, rfl⟩ := List.mem_map.1 he
    by_cases hkey : old.1 = key
    · rwa [if_pos hkey]
    · rw [if_neg hkey]
      exact h.plain old hold

theorem Keeps.leave (h : Keeps keys p) (arguments : List String) : Keeps keys (p.leave arguments) := ⟨h.keys, h.plain⟩

/-- An operand that was waited for. -/
theorem Keeps.supply (h : Keeps keys p) (argument : String) (more : List String) :
    Keeps keys { p.store key (.text argument) with waiting := more } :=
  ⟨(h.store (.text argument)).keys, (h.store (.text argument)).plain⟩

theorem Keeps.take (h : Keeps keys p) {value : Option String} (hq : p.take s value = .ok q) : Keeps keys q := by
  unfold Parsed.take at hq
  split at hq
  · cases hq
  · cases hq
    exact h.store .on
  · cases hq
    exact h.store (.text _)
  · split at hq
    · cases hq
      exact h.store (.int _)
    · cases hq

theorem Keeps.takeAll (h : Keeps keys p) (hq : p.takeAll taken = .ok q) : Keeps keys q := by
  unfold Parsed.takeAll at hq
  induction taken generalizing p with
  | nil =>
    cases hq
    exact h
  | cons first rest ih =>
    rw [List.foldlM_cons] at hq
    obtain ⟨r, hr, hq⟩ := except_bind_ok hq
    exact ih (h.take hr) hq

theorem Keeps.takeChain (h : Keeps keys p) {chain : Chain α} {next : Option (String × Word α)} {used : Bool}
    (hq : p.takeChain chain next = .ok (q, used)) : Keeps keys q := by
  unfold Parsed.takeChain at hq
  split at hq
  · obtain ⟨r, hr, hq⟩ := except_bind_ok hq
    cases hq
    exact (h.takeAll hr).leave _
  · split at hq
    · split at hq
      · obtain ⟨r, hr, hq⟩ := except_bind_ok hq
        cases hq
        exact h.takeAll hr
      · cases hq
    · obtain ⟨r, hr, hq⟩ := except_bind_ok hq
      cases hq
      exact h.takeAll hr

/-! ## All arguments -/

theorem Keeps.finish (h : Keeps keys p) : Keeps keys (p.finish words) := by
  fun_induction Parsed.finish p words with
  | case1 => exact h
  | case2 => rename_i ih; exact ih (h.supply _ _)
  | case3 => rename_i ih; exact ih (h.supply _ _)
  | case4 => rename_i ih; exact ih (h.supply _ _)
  | case5 => exact h.leave _

theorem Keeps.run : ∀ {p : Parsed α} {words : List (String × Word α)},
    Keeps keys p → p.run g words = .ok q → Keeps keys q
  | p, [], h, hq => by
    cases hq
    exact h
  | p, (argument, word) :: rest, h, hq => by
    unfold Parsed.run at hq
    split at hq
    · split at hq
      · obtain ⟨chain, -, hq⟩ := except_bind_ok hq
        split at hq
        · obtain ⟨⟨r, used⟩, hr, hq⟩ := except_bind_ok hq
          cases hq
          exact h.takeChain hr
        · obtain ⟨⟨r, used⟩, hr, hq⟩ := except_bind_ok hq
          dsimp only at hq
          split at hq
          · exact Keeps.run (h.takeChain hr) hq
          · exact Keeps.run (h.takeChain hr) hq
      · exact Keeps.run (h.leave _) hq
      · split at hq
        · exact Keeps.run (h.leave _) hq
        · exact Keeps.run (h.supply _ _) hq
      · split at hq
        · exact Keeps.run (h.leave _) hq
        · exact Keeps.run (h.supply _ _) hq
    · cases hq
      exact h.finish
termination_by _ words => words.length

theorem keeps_start (hunused : ∀ s ∈ g.switches, Plain s.unused) : Keeps g.keys (start g) := by
  constructor
  · simp [start, Grammar.keys, Function.comp_def]
  · intro e he
    simp only [start, List.mem_append, List.mem_map, List.mem_filter] at he
    obtain ⟨_, -, rfl⟩ | ⟨s, ⟨hs, -⟩, rfl⟩ := he
    · exact .null
    · exact hunused s hs

end Parsed

/-- The values of a command line that is understood have the keys of its grammar, and are plain. -/
theorem parse_plain {g : Grammar α} {arguments : List String} {values : List (String × Setting α)}
    (hunused : ∀ s ∈ g.switches, Plain s.unused) (h : parse g arguments = .ok values) :
    values.map Prod.fst = g.keys ∧ ∀ e ∈ values, Plain e.2 := by
  unfold parse parseKnown at h
  obtain ⟨⟨found, extras⟩, hknown, h⟩ := except_bind_ok h
  obtain ⟨words, -, hknown⟩ := except_bind_ok hknown
  obtain ⟨p, hp, hknown⟩ := except_bind_ok hknown
  obtain ⟨-, hknown⟩ := except_guard_ok hknown
  cases hknown
  obtain ⟨-, h⟩ := except_guard_ok h
  cases h
  have hkeeps := (Parsed.keeps_start hunused).run hp
  exact ⟨hkeeps.keys, hkeeps.plain⟩

end HrirAtlas.CommandLine
