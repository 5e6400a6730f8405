import Observability.Proofs.Toml.Setting
import Observability.Toml.Document

/-!
# The lines of a TOML text

`DocumentText cs lines` says that `cs` is a document of the lines: headers and entries in this order, with
blank lines and comments wherever these may stand.  `readStatements_text` says that its statements are
read as these lines.

`Outline` is a document by sections.  If no section and, in a section, no key occurs twice, the lines of
an outline are read as a tree with a table for each section and a node for each entry, in their order
(`parse?_outline`).
-/

namespace Observability.Toml

/-- A line that stands for something. -/
inductive Line where
  | header (name : String)
  | entry (key : String) (setting : Setting)
  deriving DecidableEq, Repr

/-- Whether a document can hold what the line sets. -/
def Line.Fits : Line → Prop
  | .header _ => True
  | .entry _ setting => setting.Fits

/-- A line and its text, without what may follow its content. -/
inductive LineText : List Char → Line → Prop where
  | header {indent before cs behind : List Char} {name : String} : Blanks indent → Blanks before →
      KeyText cs name → Blanks behind →
      LineText (indent ++ '[' :: (before ++ (cs ++ (behind ++ [']'])))) (.header name)
  | entry {indent cs behind before value : List Char} {key : String} {setting : Setting} :
      Blanks indent → KeyText cs key → Blanks behind → Blanks before → SettingText value setting →
      LineText (indent ++ (cs ++ (behind ++ '=' :: (before ++ value)))) (.entry key setting)

/-- A document and its lines. -/
inductive DocumentText : List Char → List Line → Prop where
  | done {t : List Char} : Trailing t → DocumentText t []
  | blank {t n rest : List Char} {lines : List Line} : Trailing t → Newline n →
      DocumentText rest lines → DocumentText (t ++ (n ++ rest)) lines
  | line {cs t n rest : List Char} {line : Line} {lines : List Line} : LineText cs line → Trailing t →
      Newline n → DocumentText rest lines → DocumentText (cs ++ (t ++ (n ++ rest))) (line :: lines)
  /-- the last line needs no end -/
  | last {cs t : List Char} {line : Line} : LineText cs line → Trailing t → DocumentText (cs ++ t) [line]

/-- A line has a first character. -/
theorem LineText.exists_cons {cs : List Char} {line : Line} (h : LineText cs line) :
    ∃ c more, cs = c :: more := by
  refine List.exists_cons_of_ne_nil ?_
  cases h <;> simp

/-! ## Statements -/

/-- The entry sets the key, which is not dotted, to the setting. -/
structure Entry.Sets (entry : Entry) (key : String) (setting : Setting) : Prop where
  path : entry.path = []
  key : entry.key.name = key
  value : Holds entry.value setting

/-- The header names a table at the root, in single brackets. -/
structure Header.Opens (header : Header) (name : String) : Prop where
  item : header.item = false
  path : header.path = []
  key : header.key.name = name

/-- The statement is the line. -/
inductive Stands : Statement → Line → Prop where
  | header {header : Header} {name : String} : header.Opens name → Stands (.header header) (.header name)
  | entry {entry : Entry} {key : String} {setting : Setting} : entry.Sets key setting →
      Stands (.entry entry) (.entry key setting)

/-- What follows the content of a line ends a value. -/
theorem Trailing.ends {t : List Char} (h : Trailing t) {tail : List Char} (htail : EndsSetting tail) :
    EndsSetting (t ++ tail) := by
  intro c hc
  cases h with
  | blanks hblanks =>
    cases t with
    | nil => exact htail c hc
    | cons b blanks =>
      obtain rfl : b = c := Option.some.inj hc
      rcases hblanks b List.mem_cons_self with rfl | rfl <;> simp
  | @comment blanks body hblanks _ =>
    cases blanks with
    | nil =>
      obtain rfl : '#' = c := Option.some.inj hc
      simp
    | cons b blanks =>
      obtain rfl : b = c := Option.some.inj hc
      rcases hblanks b List.mem_cons_self with rfl | rfl <;> simp

theorem endsSetting_nil : EndsSetting [] := by simp [EndsSetting]

theorem Newline.ends {n : List Char} (h : Newline n) (rest : List Char) : EndsSetting (n ++ rest) := by
  cases h <;> simp [EndsSetting]

/-- A header in single brackets is read up to its bracket. -/
theorem readHeader_text {before cs behind : List Char} {name : String} (hbefore : Blanks before)
    (hcs : KeyText cs name) (hbehind : Blanks behind) (rest : List Char) :
    ∃ header : Header, header.Opens name ∧
      readHeader ('[' :: (before ++ (cs ++ (behind ++ ']' :: rest)))) = some (header, rest) := by
  obtain ⟨key, hname, hpath⟩ := readPath_text hbefore hcs hbehind (.inr rfl) rest
  have hsingle (more : List Char) : before ++ (cs ++ (behind ++ ']' :: rest)) ≠ '[' :: more := by
    intro heq
    cases before with
    | nil =>
      obtain ⟨c, tail, rfl, hc⟩ := hcs.exists_cons
      obtain rfl : c = '[' := (List.cons.inj heq).1
      revert hc
      decide
    | cons b before =>
      obtain rfl : b = '[' := (List.cons.inj heq).1
      exact absurd (hbefore '[' List.mem_cons_self) (by decide)
  refine ⟨⟨.between ('[' :: (before ++ (cs ++ (behind ++ ']' :: rest)))) rest, false, [], key⟩,
    ⟨rfl, rfl, hname⟩, ?_⟩
  rw [readHeader]
  · rw [hpath]
    rfl
  · exact hsingle

/-- An entry is read up to the end of its value. -/
theorem readEntry_text {cs behind before value : List Char} {key : String} {setting : Setting}
    (hcs : KeyText cs key) (hbehind : Blanks behind) (hbefore : Blanks before)
    (hvalue : SettingText value setting) (hfits : setting.Fits) {rest : List Char}
    (hrest : EndsSetting rest) :
    ∃ entry : Entry, entry.Sets key setting ∧
      readEntry (readValue maxNesting) (cs ++ (behind ++ '=' :: (before ++ (value ++ rest)))) =
        some (entry, rest) := by
  obtain ⟨last, hname, hpath⟩ :=
    @readPath_text [] cs behind key (List.forall_mem_nil _) hcs hbehind '=' (.inl rfl)
      (before ++ (value ++ rest))
  obtain ⟨node, hread, hnode⟩ := readValue_setting hvalue hfits hrest 78
  obtain ⟨c, more, hstart, hc⟩ := hvalue.exists_cons
  have hskip : skipWs (before ++ (value ++ rest)) = value ++ rest := by
    rw [skipWs_append hbefore, hstart, List.cons_append, skipWs_cons hc]
  refine ⟨⟨[], last, node⟩, ⟨rfl, hname, hnode⟩, ?_⟩
  rw [List.nil_append] at hpath
  rw [readEntry, hpath]
  show Option.bind (readValue maxNesting (skipWs _)) _ = _
  rw [hskip, maxNesting, hread]
  rfl

/-- What is neither blank nor a comment nor a header is an entry. -/
theorem readStatements_entry {c : Char} (hc : c ≠ '#' ∧ c ≠ '\n' ∧ c ≠ '\r' ∧ c ≠ '[')
    {cs start : List Char} (hstart : skipWs cs = c :: start) (fuel : Nat) :
    readStatements (fuel + 1) cs = do
      let (entry, rest) ← readEntry (readValue maxNesting) (c :: start)
      let rest ← lineEnd? rest
      let statements ← readStatements fuel rest
      return .entry entry :: statements := by
  obtain ⟨hcomment, hfeed, hcarriage, hbracket⟩ := hc
  rw [readStatements, hstart]
  split
  · next heq => cases heq
  · next heq => exact absurd (List.cons.inj heq).1 hcomment
  · next heq => exact absurd (List.cons.inj heq).1 hfeed
  · next heq => exact absurd (List.cons.inj heq).1 hcarriage
  · next heq => exact absurd (List.cons.inj heq).1 hbracket
  · rfl

/-- A line is read as a statement that is this line, and then the lines behind its end. -/
theorem readStatements_line {cs : List Char} {line : Line} (h : LineText cs line) (hfits : line.Fits)
    {rest more : List Char} (hrest : EndsSetting rest) (hmore : lineEnd? rest = some more) (fuel : Nat) :
    ∃ statement, Stands statement line ∧
      readStatements (fuel + 1) (cs ++ rest) =
        (readStatements fuel more).map fun statements => statement :: statements := by
  cases h with
  | @header indent before cs behind name hindent hbefore hcs hbehind =>
    obtain ⟨header, hheader, hread⟩ := readHeader_text hbefore hcs hbehind rest
    refine ⟨.header header, .header hheader, ?_⟩
    have hskip : skipWs (indent ++ '[' :: (before ++ (cs ++ (behind ++ [']']))) ++ rest) =
        '[' :: (before ++ (cs ++ (behind ++ ']' :: rest))) := by
      rw [List.append_assoc, skipWs_append hindent, List.cons_append, skipWs_cons (by decide)]
      simp
    rw [readStatements, hskip]
    simp only [hread, hmore, Option.bind_eq_bind, Option.bind_some]
    cases readStatements fuel more <;> rfl
  | @entry indent cs behind before value key setting hindent hcs hbehind hbefore hvalue =>
    obtain ⟨entry, hentry, hread⟩ := readEntry_text hcs hbehind hbefore hvalue hfits hrest
    refine ⟨.entry entry, .entry hentry, ?_⟩
    have hskip : skipWs (indent ++ (cs ++ (behind ++ '=' :: (before ++ value))) ++ rest) =
        cs ++ (behind ++ '=' :: (before ++ (value ++ rest))) := by
      rw [List.append_assoc, skipWs_append hindent, List.append_assoc, hcs.skipWs_append]
      simp
    obtain ⟨c, tail, rfl, hc⟩ := hcs.exists_cons
    have hstart : c ≠ '#' ∧ c ≠ '\n' ∧ c ≠ '\r' ∧ c ≠ '[' := by
      refine ⟨?_, ?_, ?_, ?_⟩ <;> rintro rfl <;> revert hc <;> decide
    rw [readStatements_entry hstart (by rw [hskip, List.cons_append])]
    rw [List.cons_append] at hread
    simp only [hread, hmore, Option.bind_eq_bind, Option.bind_some]
    cases readStatements fuel more <;> rfl

/-- A line that stands for nothing is passed over. -/
theorem readStatements_blank {t : List Char} (h : Trailing t) {n : List Char} (hn : Newline n)
    (rest : List Char) (fuel : Nat) :
    readStatements (fuel + 1) (t ++ (n ++ rest)) = readStatements fuel rest := by
  cases h with
  | blanks hblanks =>
    rw [readStatements, skipWs_append hblanks]
    cases hn <;> rfl
  | @comment blanks body hblanks hbody =>
    have hend : lineEnd? ('#' :: (body ++ (n ++ rest))) = some rest :=
      lineEnd?_trailing (.comment (List.forall_mem_nil _) hbody) hn rest
    have hskip : skipWs (blanks ++ '#' :: body ++ (n ++ rest)) = '#' :: (body ++ (n ++ rest)) := by
      rw [List.append_assoc, skipWs_append hblanks, List.cons_append, skipWs_cons (by decide)]
    rw [readStatements, hskip]
    show lineEnd? _ >>= readStatements fuel = _
    rw [hend]
    rfl

/-- Behind the last line there is nothing more. -/
theorem readStatements_done {t : List Char} (h : Trailing t) {fuel : Nat} (hfuel : t.length < fuel) :
    readStatements fuel t = some [] := by
  have hnil (fuel : Nat) : readStatements (fuel + 1) [] = some [] := rfl
  obtain ⟨fuel, rfl⟩ : ∃ k, fuel = k + 1 := ⟨fuel - 1, by omega⟩
  cases h with
  | blanks hblanks =>
    have hskip : skipWs t = [] := List.dropWhile_eq_nil_iff.mpr fun c hc => isWs_iff.mpr (hblanks c hc)
    rw [readStatements, hskip]
  | @comment blanks body hblanks hbody =>
    have hend : lineEnd? ('#' :: body) = some [] :=
      lineEnd?_last (.comment (List.forall_mem_nil _) hbody)
    have hskip : skipWs (blanks ++ '#' :: body) = '#' :: body := by
      rw [skipWs_append hblanks, skipWs_cons (by decide)]
    obtain ⟨fuel, rfl⟩ : ∃ k, fuel = k + 1 := ⟨fuel - 1, by simp at hfuel; omega⟩
    rw [readStatements, hskip]
    show lineEnd? _ >>= readStatements (fuel + 1) = _
    rw [hend]
    exact hnil fuel

/-- A document is read as the statements that are its lines. -/
theorem readStatements_text {cs : List Char} {lines : List Line} (h : DocumentText cs lines)
    (hfits : ∀ line ∈ lines, line.Fits) {fuel : Nat} (hfuel : cs.length < fuel) :
    ∃ statements, readStatements fuel cs = some statements ∧ List.Forall₂ Stands statements lines := by
  have hnewline {n : List Char} (hn : Newline n) : 0 < n.length := by cases hn <;> simp
  induction h generalizing fuel with
  | done ht => exact ⟨[], readStatements_done ht hfuel, .nil⟩
  | @blank t n rest lines ht hn _ ih =>
    have hlength := hnewline hn
    simp only [List.length_append] at hfuel
    obtain ⟨fuel, rfl⟩ : ∃ k, fuel = k + 1 := ⟨fuel - 1, by omega⟩
    obtain ⟨statements, hread, hstands⟩ := @ih hfits fuel (by omega)
    exact ⟨statements, (readStatements_blank ht hn rest fuel).trans hread, hstands⟩
  | @line cs t n rest line lines hline ht hn _ ih =>
    have hlength := hnewline hn
    simp only [List.length_append] at hfuel
    obtain ⟨fuel, rfl⟩ : ∃ k, fuel = k + 1 := ⟨fuel - 1, by omega⟩
    obtain ⟨hfirst, hlines⟩ := List.forall_mem_cons.mp hfits
    obtain ⟨statements, hread, hstands⟩ := @ih hlines fuel (by omega)
    obtain ⟨statement, hstatement, hstep⟩ :=
      readStatements_line hline hfirst (ht.ends (hn.ends rest)) (lineEnd?_trailing ht hn rest) fuel
    exact ⟨statement :: statements, by rw [hstep, hread]; rfl, .cons hstatement hstands⟩
  | @last cs t line hline ht =>
    obtain ⟨c, more, hsplit⟩ := hline.exists_cons
    rw [hsplit, List.length_append, List.length_cons] at hfuel
    obtain ⟨fuel, rfl⟩ : ∃ k, fuel = k + 2 := ⟨fuel - 2, by omega⟩
    have hrest : EndsSetting t := by simpa using ht.ends endsSetting_nil
    obtain ⟨statement, hstatement, hstep⟩ :=
      readStatements_line hline (hfits line List.mem_cons_self) hrest (lineEnd?_last ht) (fuel + 1)
    exact ⟨[statement], hstep, .cons hstatement .nil⟩

/-! ## Sections -/

/-- A document by its sections: the name of each with what its keys are set to, in order. -/
abbrev Outline := List (String × List (String × Setting))

/-- The lines of an outline. -/
def Outline.lines (outline : Outline) : List Line :=
  outline.flatMap fun part => .header part.1 :: part.2.map fun entry => .entry entry.1 entry.2

/-- No section occurs twice, and no key twice in a section. -/
structure Outline.Distinct (outline : Outline) : Prop where
  names : (outline.map (·.1)).Nodup
  keys : ∀ part ∈ outline, (part.2.map (·.1)).Nodup

/-- The entries set the keys. -/
def SetAll (entries : List Entry) (settings : List (String × Setting)) : Prop :=
  List.Forall₂ (fun entry setting => entry.Sets setting.1 setting.2) entries settings

/-- None of the keys is dotted. -/
theorem SetAll.path {entries : List Entry} {settings : List (String × Setting)}
    (h : SetAll entries settings) : ∀ entry ∈ entries, entry.path = [] := by
  induction h with
  | nil => simp
  | cons hfirst _ ih => exact List.forall_mem_cons.mpr ⟨hfirst.path, ih⟩

theorem SetAll.names {entries : List Entry} {settings : List (String × Setting)}
    (h : SetAll entries settings) : entries.map (·.key.name) = settings.map (·.1) := by
  induction h with
  | nil => rfl
  | cons hfirst _ ih => rw [List.map_cons, List.map_cons, hfirst.key, ih]

/-- Statements that are entries in front of others. -/
theorem exists_entries {settings : List (String × Setting)} {others : List Line}
    {statements : List Statement}
    (h : List.Forall₂ Stands statements
      ((settings.map fun entry => .entry entry.1 entry.2) ++ others)) :
    ∃ entries rest, statements = entries.map .entry ++ rest ∧ SetAll entries settings ∧
      List.Forall₂ Stands rest others := by
  induction settings generalizing statements with
  | nil => exact ⟨[], statements, rfl, .nil, h⟩
  | cons setting settings ih =>
    rw [List.map_cons, List.cons_append] at h
    cases h with
    | cons hfirst hmore =>
      cases hfirst with
      | @entry entry _ _ hentry =>
        obtain ⟨entries, rest, rfl, hentries, hrest⟩ := ih hmore
        exact ⟨entry :: entries, rest, rfl, .cons hentry hentries, hrest⟩

/-- Entries in front of other statements come in front of their first section. -/
theorem ofStatements_entries (entries : List Entry) (rest : List Statement) :
    Document.ofStatements (entries.map .entry ++ rest) =
      ⟨entries ++ (Document.ofStatements rest).preamble, (Document.ofStatements rest).sections⟩ := by
  induction entries with
  | nil => rfl
  | cons entry entries ih =>
    rw [List.map_cons, List.cons_append, Document.ofStatements, ih]
    rfl

/-- The section is the part of an outline. -/
structure Section.Matches (part : Section) (outlined : String × List (String × Setting)) : Prop where
  header : part.header.Opens outlined.1
  entries : SetAll part.entries outlined.2

/-- The statements of an outline are gathered by its sections. -/
theorem ofStatements_outline {outline : Outline} {statements : List Statement}
    (h : List.Forall₂ Stands statements outline.lines) :
    (Document.ofStatements statements).preamble = [] ∧
      List.Forall₂ Section.Matches (Document.ofStatements statements).sections outline := by
  induction outline generalizing statements with
  | nil =>
    cases h
    exact ⟨rfl, .nil⟩
  | cons part outline ih =>
    rw [Outline.lines, List.flatMap_cons, List.cons_append] at h
    cases h with
    | cons hfirst hmore =>
      cases hfirst with
      | @header header _ hheader =>
        obtain ⟨entries, rest, rfl, hentries, hrest⟩ := exists_entries hmore
        obtain ⟨hpreamble, hsections⟩ := ih hrest
        rw [Document.ofStatements, ofStatements_entries, hpreamble, List.append_nil]
        exact ⟨rfl, .cons ⟨hheader, hentries⟩ hsections⟩

/-! ## The tree -/

/-- A name that no key has is not found. -/
theorem find?_eq_none {name : String} {entries : Entries} (h : name ∉ entries.map (·.1.name)) :
    Entries.find? name entries = none := by
  induction entries with
  | nil => rfl
  | cons entry entries ih =>
    rw [List.map_cons, List.mem_cons, not_or] at h
    rw [Entries.find?, if_neg (Ne.symm h.1), ih h.2]

/-- Entries with new keys are added at the end. -/
theorem addEntries_of_nodup {entries : List Entry} {before : Entries}
    (hpath : ∀ entry ∈ entries, entry.path = [])
    (hkeys : (before.map (·.1.name) ++ entries.map (·.key.name)).Nodup) :
    addEntries .header before entries =
      some (before ++ entries.map fun entry => (entry.key, entry.value)) := by
  induction entries generalizing before with
  | nil => simp [addEntries]
  | cons entry entries ih =>
    obtain ⟨hentry, hentries⟩ := List.forall_mem_cons.mp hpath
    have hnew : Entries.find? entry.key.name before = none := by
      refine find?_eq_none fun hmem => ?_
      exact (List.nodup_append.mp hkeys).2.2 _ hmem entry.key.name (by simp) rfl
    have hstep : addEntry .header before entry = some (before ++ [(entry.key, entry.value)]) := by
      simp [addEntry, hentry, descend, hnew]
    have hrest := @ih (before ++ [(entry.key, entry.value)]) hentries (by simpa using hkeys)
    rw [addEntries, List.foldlM_cons, hstep]
    show addEntries .header _ entries = _
    rw [hrest]
    simp

/-- The entry of a table is what the key is set to. -/
def IsSet (entry : Key × Node) (setting : String × Setting) : Prop :=
  entry.1.name = setting.1 ∧ Holds entry.2 setting.2

/-- The entry of the root is the table of a section. -/
def IsPart (entry : Key × Node) (part : String × List (String × Setting)) : Prop :=
  entry.1.name = part.1 ∧
    ∃ span entries, entry.2 = .table span .header entries ∧ List.Forall₂ IsSet entries part.2

/-- A section with a new name is added at the end as a table. -/
theorem addSection_of_notMem {root : Entries} {part : Section}
    {outlined : String × List (String × Setting)} (h : part.Matches outlined)
    (hnew : outlined.1 ∉ root.map (·.1.name)) (hkeys : (outlined.2.map (·.1)).Nodup) :
    ∃ entry, IsPart entry outlined ∧ addSection root part = some (root ++ [entry]) := by
  have htable := @addEntries_of_nodup part.entries [] h.entries.path
    (by simpa [h.entries.names] using hkeys)
  refine ⟨(part.header.key, .table (some part.span) .header
    (part.entries.map fun entry => (entry.key, entry.value))), ⟨h.header.key, _, _, rfl, ?_⟩, ?_⟩
  · rw [List.forall₂_map_left_iff]
    exact h.entries.imp fun entry setting hsets => ⟨hsets.key, hsets.value⟩
  · rw [addSection, h.header.path, descend, Section.addTo, h.header.item, h.header.key,
      find?_eq_none hnew]
    simp only [htable]
    rfl

/-- The sections of an outline are the tables of a tree, behind those that were there. -/
theorem foldlM_addSection {outline : Outline} {sections : List Section}
    (h : List.Forall₂ Section.Matches sections outline) {before : Entries}
    (hnames : (before.map (·.1.name) ++ outline.map (·.1)).Nodup)
    (hkeys : ∀ part ∈ outline, (part.2.map (·.1)).Nodup) :
    ∃ root, sections.foldlM addSection before = some (before ++ root) ∧
      List.Forall₂ IsPart root outline := by
  induction h generalizing before with
  | nil => exact ⟨[], by simp, .nil⟩
  | @cons part outlined sections outline hfirst _ ih =>
    obtain ⟨hpart, hparts⟩ := List.forall_mem_cons.mp hkeys
    have hnew : outlined.1 ∉ before.map (·.1.name) := by
      intro hmem
      exact (List.nodup_append.mp hnames).2.2 _ hmem outlined.1 (by simp) rfl
    obtain ⟨entry, hentry, hstep⟩ := addSection_of_notMem hfirst hnew hpart
    obtain ⟨root, hroot, hmatches⟩ :=
      @ih (before ++ [entry]) (by simpa [hentry.1] using hnames) hparts
    refine ⟨entry :: root, ?_, .cons hentry hmatches⟩
    rw [List.foldlM_cons, hstep]
    show sections.foldlM addSection _ = _
    rw [hroot]
    simp

/-- No line starts with a byte order mark. -/
theorem readStatements_mark (rest : List Char) (fuel : Nat) :
    readStatements fuel ('\uFEFF' :: rest) = none := by
  cases fuel with
  | zero => rfl
  | succ fuel =>
    have hkey : readKey ('\uFEFF' :: rest) = none := by
      rw [readKey]
      · rw [List.takeWhile_cons_of_neg (by decide)]
        rfl
      · simp
      · simp
    have hskip : skipWs ('\uFEFF' :: rest) = '\uFEFF' :: rest := skipWs_cons (by decide) rest
    rw [readStatements_entry (by decide) hskip, readEntry, readPath, maxNesting, readKeys, hskip, hkey]
    rfl

/-- **A document is read as its outline.**  Written in any layout, the lines of an outline whose sections
and keys are distinct are read as a tree of its sections, and these as tables of what their keys are set
to. -/
theorem parse?_outline {outline : Outline} (hdistinct : outline.Distinct) {cs : List Char}
    (h : DocumentText cs outline.lines) (hfits : ∀ line ∈ outline.lines, line.Fits) :
    ∃ root, parse? cs = some root ∧ List.Forall₂ IsPart root outline := by
  obtain ⟨statements, hread, hstands⟩ := readStatements_text h hfits (Nat.lt_succ_self _)
  obtain ⟨hpreamble, hsections⟩ := ofStatements_outline hstands
  obtain ⟨root, hroot, hparts⟩ :=
    @foldlM_addSection _ _ hsections [] (by simpa using hdistinct.names) hdistinct.keys
  refine ⟨root, ?_, hparts⟩
  have hmark (rest : List Char) : cs ≠ '\uFEFF' :: rest := by
    rintro rfl
    rw [readStatements_mark] at hread
    cases hread
  rw [parse?]
  · show Option.bind (readStatements (cs.length + 1) cs) _ = _
    rw [hread]
    show (Document.ofStatements statements).root? = _
    rw [Document.root?, hpreamble]
    exact hroot
  · exact hmark

end Observability.Toml
