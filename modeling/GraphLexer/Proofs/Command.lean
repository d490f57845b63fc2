/-
Exchanging the command of a command line.

`trace`, `dump` and `check` know every flag that `eval` knows and have the same places for plain words, so
they take each command line that `eval` takes, and read the same values from it (`words_of_knows`). Plain
words fill their places in order, so one for the input comes with one for the grammar (`InOrder.words`).

What becomes of them is not the same: with a language, `eval` and `trace` take a single plain word for the
input, while `dump` and `check` take it for a grammar file. Nothing is loaded then, as a grammar comes from
one place only; with all other command lines the four commands load the same grammar
(`grammar_of_exchanged`).
-/
import GraphLexer.Command.Arguments
import GraphLexer.Command.Load
import GraphLexer.Proofs.Wire

namespace GraphLexer

namespace CommandName

theorem knows_of_knows_eval {c : CommandName} (hc : c ≠ langs) (flag : Flag) (h : eval.knows flag) :
    c.knows flag := by
  cases c with
  | langs => exact absurd rfl hc
  | eval => exact h
  | dump => cases flag <;> rfl
  | trace | check =>
    cases flag with
    | value slot => cases slot <;> exact h
    | compact | verbose | help => rfl

theorem places_eq {c : CommandName} (hc : c ≠ langs) : c.places = eval.places := by
  cases c with
  | langs => exact absurd rfl hc
  | eval | trace | dump | check => rfl

end CommandName

namespace Reading

section
variable {c : CommandName} {r : Reading} {letter : Char}

theorem letters_value {slot : Slot} {next : Char} {cs : List Char}
    (h : (Flag.ofLetter? letter).filter c.knows = some (.value slot)) :
    r.letters c (letter :: next :: cs) =
      r.attach slot (String.ofList (if next = '=' then cs else next :: cs)) := by
  rw [letters.eq_def]
  dsimp only
  rw [h]
  split
  · next heq => cases heq
  · next heq hcs => cases heq; cases hcs; rfl
  · next hne heq hcs =>
    cases heq
    cases hcs
    rw [if_neg hne]
  · next heq _ hne => exact absurd (Option.some.inj heq).symm (hne _ _ _ rfl)

/-- The letter of another flag, or the last one, is a flag without an attached value. -/
theorem letters_flag {flag : Flag} {rest : List Char}
    (h : (Flag.ofLetter? letter).filter c.knows = some flag)
    (hflag : rest = [] ∨ ∀ slot, flag ≠ .value slot) :
    r.letters c (letter :: rest) = r.flag flag >>= fun r => r.letters c rest := by
  rw [letters.eq_def]
  dsimp only
  rw [h]
  split
  · next heq => cases heq
  · next heq => cases heq; simp at hflag
  · next heq => cases heq; simp at hflag
  · next heq _ _ => cases heq; rfl

end

section
variable {c d : CommandName} (hknows : ∀ flag, c.knows flag → d.knows flag)
include hknows

theorem filter_of_knows {found : Option Flag} {flag : Flag} (h : found.filter c.knows = some flag) :
    found.filter d.knows = some flag := by
  obtain ⟨hfound, hflag⟩ := Option.filter_eq_some_iff.1 h
  exact Option.filter_eq_some_iff.2 ⟨hfound, hknows flag hflag⟩

theorem long_of_knows {r r' : Reading} {name : String} {value : Option String}
    (h : r.long c name value = .ok r') : r.long d name value = .ok r' := by
  unfold long at h ⊢
  cases hflag : (Flag.ofName? name).filter c.knows with
  | none => rw [hflag] at h; cases h
  | some flag => rw [filter_of_knows hknows hflag]; rwa [hflag] at h

theorem letters_of_knows : ∀ {cs : List Char} {r r' : Reading}, r.letters c cs = .ok r' →
    r.letters d cs = .ok r'
  | [], _, _, h => h
  | letter :: rest, r, r', h => by
    cases hflag : (Flag.ofLetter? letter).filter c.knows with
    | none =>
      rw [letters.eq_def] at h
      dsimp only at h
      rw [hflag] at h
      cases h
    | some flag =>
      have hflag' := filter_of_knows hknows hflag
      by_cases hvalue : rest = [] ∨ ∀ slot, flag ≠ .value slot
      · rw [letters_flag hflag hvalue] at h
        rw [letters_flag hflag' hvalue]
        cases hr : r.flag flag with
        | error e => rw [hr] at h; cases h
        | ok r₁ => rw [hr] at h; exact letters_of_knows h
      · obtain ⟨hrest, hslot⟩ := not_or.1 hvalue
        obtain ⟨slot, hslot⟩ := Classical.not_forall.1 hslot
        obtain rfl := Classical.not_not.1 hslot
        obtain ⟨next, cs, rfl⟩ := List.exists_cons_of_ne_nil hrest
        rw [letters_value hflag] at h
        rwa [letters_value hflag']

/-- **A command line is read alike by a command that knows all its flags.** -/
theorem words_of_knows : ∀ {args : List String} {r : Reading} {g : Given}, r.words c args = .ok g →
    r.words d args = .ok g
  | [], _, _, h => h
  | s :: rest, r, g, h => by
    have hrest : ∀ {x y : Except UsageError Reading}, (∀ {r'}, x = .ok r' → y = .ok r') →
        (x >>= fun r => words c r rest) = .ok g → (y >>= fun r => words d r rest) = .ok g := by
      intro x y hxy h
      cases x with
      | error e => cases h
      | ok r₁ => rw [hxy rfl]; exact words_of_knows h
    rw [words.eq_def] at h ⊢
    dsimp only at h ⊢
    cases hs : Word.ofString s with
    | separator => rw [hs] at h; exact h
    | long name value => rw [hs] at h; exact hrest (long_of_knows hknows) h
    | short cs => rw [hs] at h; exact hrest (letters_of_knows hknows) h
    | plain =>
      rw [hs] at h
      dsimp only at h ⊢
      split at h
      · exact words_of_knows h
      · exact hrest id h

end

/-! ### Plain words -/

/-- A plain word is, or will be, the grammar file. -/
def HasGrammar (r : Reading) : Prop :=
  r.given.grammarPath.isSome ∨ ∃ value, r.pending = some (.grammarPath, value)

/-- A plain word is, or will be, the input file. -/
def HasInput (r : Reading) : Prop :=
  r.given.inputPath.isSome ∨ ∃ value, r.pending = some (.inputPath, value)

/-- No plain word is taken for the input before one is taken for the grammar. -/
def InOrder (r : Reading) : Prop :=
  r.HasGrammar ∨ r.places = [.grammarPath, .inputPath] ∧ ¬ r.HasInput

theorem fill_eq_ok {α : Type} {old : Option α} {new : Except UsageError α} {set : Option α → Given}
    {g : Given} (h : Given.fill old new set = .ok g) : ∃ a, g = set (some a) := by
  cases old with
  | some _ => cases h
  | none =>
    obtain ⟨a, -, rfl⟩ := map_eq_ok.1 h
    exact ⟨a, rfl⟩

theorem put_paths {g g' : Given} {slot : Slot} {value : String} (h : g.put slot value = .ok g') :
    (g.grammarPath.isSome ∨ slot = .grammarPath → g'.grammarPath.isSome) ∧
      (g'.inputPath.isSome → g.inputPath.isSome ∨ slot = .inputPath) := by
  unfold Given.put at h
  cases slot <;> obtain ⟨a, rfl⟩ := fill_eq_ok h <;> simp

theorem ne_inputPath_of_ofName? {name : String} {slot : Slot} (h : Flag.ofName? name = some (.value slot)) :
    slot ≠ .inputPath := by
  rintro rfl
  unfold Flag.ofName? at h
  split at h <;> cases h

theorem ne_inputPath_of_ofLetter? {letter : Char} {slot : Slot}
    (h : Flag.ofLetter? letter = some (.value slot)) : slot ≠ .inputPath := by
  rintro rfl
  unfold Flag.ofLetter? at h
  split at h <;> cases h

namespace InOrder

variable {c : CommandName} {r r' : Reading}

/-- The order is kept by what has been given and what is pending, if the places are the same. -/
theorem mono (hr : r.InOrder) (hplaces : r'.places = r.places) (hgrammar : r.HasGrammar → r'.HasGrammar)
    (hinput : r'.HasInput → r.HasInput) : r'.InOrder :=
  hr.imp hgrammar fun ⟨h, hnot⟩ => ⟨hplaces.trans h, fun hi => hnot (hinput hi)⟩

theorem settle (hr : r.InOrder) (h : r.settle = .ok r') :
    r'.InOrder ∧ r'.pending = none ∧ r'.places = r.places := by
  unfold Reading.settle at h
  split at h
  · next hpending => cases h; exact ⟨hr, hpending, rfl⟩
  · cases h
  · next slot value hpending =>
    obtain ⟨given, hput, rfl⟩ := map_eq_ok.1 h
    obtain ⟨hgrammar, hinput⟩ := put_paths hput
    refine ⟨hr.mono rfl ?_ ?_, rfl, rfl⟩
    · rintro (hg | ⟨v, hv⟩)
      · exact .inl (hgrammar (.inl hg))
      · cases hpending.symm.trans hv
        exact .inl (hgrammar (.inr rfl))
    · rintro (hi | ⟨v, hv⟩)
      · rcases hinput hi with hi | rfl
        · exact .inl hi
        · exact .inr ⟨_, hpending⟩
      · cases hv

theorem attach {slot : Slot} {value : String} (hr : r.InOrder) (hslot : slot ≠ .inputPath)
    (h : r.attach slot value = .ok r') : r'.InOrder := by
  obtain ⟨r₁, hsettle, h⟩ := bind_eq_ok.1 h
  obtain ⟨given, hput, h⟩ := bind_eq_ok.1 h
  cases h
  obtain ⟨hgrammar, hinput⟩ := put_paths hput
  refine (hr.settle hsettle).1.mono rfl (Or.imp (fun hg => hgrammar (.inl hg)) id) ?_
  exact Or.imp (fun hi => (hinput hi).resolve_right hslot) id

theorem flag {flag : Flag} (hr : r.InOrder) (hslot : flag ≠ .value .inputPath)
    (h : r.flag flag = .ok r') : r'.InOrder := by
  obtain ⟨r₁, hsettle, h⟩ := bind_eq_ok.1 h
  obtain ⟨hr₁, hpending, -⟩ := hr.settle hsettle
  cases flag with
  | value slot =>
    cases h
    refine hr₁.mono rfl (Or.imp_right fun ⟨v, hv⟩ => ?_) (Or.imp_right fun ⟨v, hv⟩ => ?_)
    · rw [hpending] at hv; cases hv
    · cases hv; exact absurd rfl hslot
  | compact =>
    dsimp only at h
    split at h <;> cases h
    exact hr₁
  | verbose => cases h; exact hr₁
  | help => cases h

theorem plain {s : String} (hr : r.InOrder) (h : r.plain s = .ok r') : r'.InOrder := by
  unfold Reading.plain at h
  split at h
  · cases h
  · next slot places hplaces =>
    obtain ⟨r₁, hsettle, rfl⟩ := map_eq_ok.1 h
    obtain ⟨(hg | ⟨v, hv⟩) | ⟨hfirst, -⟩, hpending, hsame⟩ := hr.settle hsettle
    · exact .inl (.inl hg)
    · rw [hpending] at hv; cases hv
    · have hslot : slot = .grammarPath := (List.cons.inj (hplaces.symm.trans (hsame.symm.trans hfirst))).1
      exact .inl (.inr ⟨s, by rw [hslot]⟩)

theorem long {name : String} {value : Option String} (hr : r.InOrder)
    (h : r.long c name value = .ok r') : r'.InOrder := by
  unfold Reading.long at h
  split at h
  · cases h
  · next hflag =>
    exact hr.attach (ne_inputPath_of_ofName? (Option.filter_eq_some_iff.1 hflag).1) h
  · cases h
  · next hflag =>
    refine hr.flag ?_ h
    rintro rfl
    exact ne_inputPath_of_ofName? (Option.filter_eq_some_iff.1 hflag).1 rfl

theorem letters : ∀ {cs : List Char} {r r' : Reading}, r.InOrder → r.letters c cs = .ok r' → r'.InOrder
  | [], _, _, hr, h => by cases h; exact hr
  | letter :: rest, r, r', hr, h => by
    rw [Reading.letters.eq_def] at h
    dsimp only at h
    split at h
    · cases h
    · next hflag =>
      exact hr.attach (ne_inputPath_of_ofLetter? (Option.filter_eq_some_iff.1 hflag).1) h
    · next hflag =>
      exact hr.attach (ne_inputPath_of_ofLetter? (Option.filter_eq_some_iff.1 hflag).1) h
    · next hflag _ _ =>
      obtain ⟨r₁, hr₁, h⟩ := bind_eq_ok.1 h
      refine letters (hr.flag ?_ hr₁) h
      rintro rfl
      exact ne_inputPath_of_ofLetter? (Option.filter_eq_some_iff.1 hflag).1 rfl

theorem foldlM_plain : ∀ {words : List String} {r r' : Reading}, r.InOrder →
    words.foldlM Reading.plain r = .ok r' → r'.InOrder
  | [], _, _, hr, h => by cases h; exact hr
  | s :: rest, r, r', hr, h => by
    rw [List.foldlM_cons] at h
    obtain ⟨r₁, hr₁, h⟩ := bind_eq_ok.1 h
    exact foldlM_plain (hr.plain hr₁) h

/-- At the end, a plain word for the input comes with one for the grammar. -/
theorem of_settled {g : Given} (hr : r.InOrder) (h : r.settle.map given = .ok g)
    (hinput : g.inputPath.isSome) : g.grammarPath.isSome := by
  obtain ⟨r₁, hsettle, rfl⟩ := map_eq_ok.1 h
  obtain ⟨(hg | ⟨v, hv⟩) | ⟨-, hnot⟩, hpending, -⟩ := hr.settle hsettle
  · exact hg
  · rw [hpending] at hv; cases hv
  · exact absurd (.inl hinput) hnot

theorem words {g : Given} (hinput : g.inputPath.isSome) : ∀ {args : List String} {r : Reading},
    r.InOrder → r.words c args = .ok g → g.grammarPath.isSome
  | [], _, hr, h => hr.of_settled h hinput
  | s :: rest, r, hr, h => by
    rw [Reading.words.eq_def] at h
    dsimp only at h
    split at h
    · obtain ⟨r₁, hr₁, h⟩ := bind_eq_ok.1 h
      exact (hr.foldlM_plain hr₁).of_settled h hinput
    · obtain ⟨r₁, hr₁, h⟩ := bind_eq_ok.1 h
      exact words hinput (hr.long hr₁) h
    · obtain ⟨r₁, hr₁, h⟩ := bind_eq_ok.1 h
      exact words hinput (hr.letters hr₁) h
    · split at h
      · next slot hpending =>
        have hvalue : InOrder { r with pending := some (slot, some s) } := by
          refine hr.mono rfl (Or.imp_right fun ⟨v, hv⟩ => ?_) (Or.imp_right fun ⟨v, hv⟩ => ?_)
          · cases hpending.symm.trans hv
            exact ⟨_, rfl⟩
          · cases hv
            exact ⟨_, hpending⟩
        exact words hinput hvalue h
      · obtain ⟨r₁, hr₁, h⟩ := bind_eq_ok.1 h
        exact words hinput (hr.plain hr₁) h

end InOrder

end Reading

/-! ## The grammar of a command -/

/-- A language stands beside a single plain word, which is taken for the input. -/
def Task.isShifted (task : Task) : Bool :=
  task.grammar.lang.isSome && task.grammar.path.isNone && task.input.path.isSome

/-- A command line of `eval` is one of another command, with the same values. -/
theorem Command.ofArguments_of_eval {args : List String} {g : Given} {name : String} {c : CommandName}
    (h : (⟨.nothing, none, CommandName.eval.places⟩ : Reading).words .eval args = .ok g)
    (hname : CommandName.ofString? name = some c) (hc : c ≠ .langs) :
    ofArguments (name :: args) = .ok (c.complete g) := by
  rw [ofArguments, hname]
  dsimp only
  rw [CommandName.places_eq hc, Reading.words_of_knows (CommandName.knows_of_knows_eval hc) h]
  rfl

/-- What `eval` and `dump` take for the grammar differs if a plain word is taken for the input. -/
theorem CommandName.grammar?_complete {g : Given} (hg : g.inputPath.isSome → g.grammarPath.isSome)
    {task : Task} {compact : Bool} {color : ColorChoice}
    (h : eval.complete g = .eval task compact color) : (dump.complete g).grammar? =
      some (if task.isShifted then ⟨task.input.path, task.grammar.lang⟩ else task.grammar) := by
  cases h
  obtain ⟨grammarPath, inputPath, lang⟩ := g
  cases lang with
  | none => rfl
  | some _ =>
    cases inputPath with
    | none => cases grammarPath <;> rfl
    | some _ =>
      obtain ⟨_, rfl⟩ := Option.isSome_iff_exists.1 (hg rfl)
      rfl

theorem Host.loadGrammar_twice {m : Type → Type} [Monad m] (host : Host m) {source : GrammarSource}
    (hpath : source.path.isSome) (hlang : source.lang.isSome) :
    host.loadGrammar source = throw .grammarTwice := by
  obtain ⟨path, lang⟩ := source
  obtain ⟨p, rfl⟩ := Option.isSome_iff_exists.1 hpath
  obtain ⟨l, rfl⟩ := Option.isSome_iff_exists.1 hlang
  rfl

namespace Command

/-- **Exchanging the command keeps the grammar, unless a language stands beside a single plain word.** The
    other commands take each command line that `eval` takes, and `trace` has its grammar from the same
    place. So have `dump` and `check`, but for a plain word that `eval` takes for the input: they take it
    for a grammar file, and refuse to load a grammar from two places. -/
theorem grammar_of_exchanged {args : List String} {task : Task} {compact : Bool} {color : ColorChoice}
    (h : ofArguments ("eval" :: args) = .ok (.eval task compact color)) :
    ∃ traced dumped checked : Command, ofArguments ("trace" :: args) = .ok traced ∧
      ofArguments ("dump" :: args) = .ok dumped ∧ ofArguments ("check" :: args) = .ok checked ∧
      traced.grammar? = some task.grammar ∧ checked.grammar? = dumped.grammar? ∧
      dumped.grammar? =
        some (if task.isShifted then ⟨task.input.path, task.grammar.lang⟩ else task.grammar) ∧
      (task.isShifted → ∀ {m : Type → Type} [Monad m] (host : Host m),
        host.loadGrammar ⟨task.input.path, task.grammar.lang⟩ = throw .grammarTwice) := by
  cases hwords : (⟨.nothing, none, CommandName.eval.places⟩ : Reading).words .eval args with
  | error e =>
    have herror : ofArguments ("eval" :: args) = .error e := congrArg (Except.map _) hwords
    rw [herror] at h
    cases h
  | ok g =>
    rw [ofArguments_of_eval hwords rfl (by decide)] at h
    have heval : CommandName.eval.complete g = .eval task compact color := Except.ok.inj h
    refine ⟨_, _, _, ofArguments_of_eval hwords rfl (by decide), ofArguments_of_eval hwords rfl (by decide),
      ofArguments_of_eval hwords rfl (by decide), ?_, rfl, CommandName.grammar?_complete ?_ heval,
      fun hshifted _ _ host => ?_⟩
    · cases heval
      rfl
    · exact fun hinput => Reading.InOrder.words hinput (.inr ⟨rfl, by rintro (h | ⟨_, h⟩) <;> cases h⟩) hwords
    · rw [Task.isShifted, Bool.and_eq_true, Bool.and_eq_true] at hshifted
      exact host.loadGrammar_twice hshifted.2 hshifted.1.1

/-- Flags of all forms, and a word after the separator. -/
theorem word_after_separator_exchanged : ∃ task compact color traced dumped checked,
    ofArguments ["eval", "-vl", "aya", "--ticks=5", "--compact", "--", "-"] =
      .ok (.eval task compact color) ∧
    ofArguments ["trace", "-vl", "aya", "--ticks=5", "--compact", "--", "-"] = .ok traced ∧
    ofArguments ["dump", "-vl", "aya", "--ticks=5", "--compact", "--", "-"] = .ok dumped ∧
    ofArguments ["check", "-vl", "aya", "--ticks=5", "--compact", "--", "-"] = .ok checked ∧
    task.isShifted ∧ traced.grammar? = some ⟨none, some "aya"⟩ ∧
    dumped.grammar? = some ⟨some "-", some "aya"⟩ ∧ checked.grammar? = some ⟨some "-", some "aya"⟩ := by
  have heval : ofArguments ["eval", "-vl", "aya", "--ticks=5", "--compact", "--", "-"] =
      .ok (.eval ⟨⟨none, some "aya"⟩, ⟨some "-", none⟩, none, ⟨5, 256⟩⟩ true .auto) := rfl
  obtain ⟨traced, dumped, checked, htrace, hdump, hcheck, htraced, hchecked, hdumped, -⟩ :=
    grammar_of_exchanged heval
  exact ⟨_, _, _, traced, dumped, checked, heval, htrace, hdump, hcheck, rfl, htraced, hdumped,
    hchecked.trans hdumped⟩

/-- `eval` finds a grammar where `check` refuses to look for one. -/
theorem single_word_exchanged : ∃ task compact color source color',
    ofArguments ["eval", "-l", "regex", "in.txt"] = .ok (.eval task compact color) ∧
    ofArguments ["check", "-l", "regex", "in.txt"] = .ok (.check source color') ∧
    source ≠ task.grammar ∧ ∀ host : Host Id,
      (∃ loaded, host.loadGrammar task.grammar = pure loaded) ∧
      host.loadGrammar source = throw .grammarTwice :=
  ⟨⟨⟨none, some "regex"⟩, ⟨some "in.txt", none⟩, none, .default⟩, false, .auto,
    ⟨some "in.txt", some "regex"⟩, .auto, rfl, rfl, by decide, fun _ => ⟨⟨_, rfl⟩, rfl⟩⟩

end Command

end GraphLexer
