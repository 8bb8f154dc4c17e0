/-!
# Append-only logs

A log lists what has happened, the oldest entry first.  `Open` says that an
entry of one kind has been written and none of a second kind since, and
`Justified` that every entry fits what the log held when it was written.  Both
are decided by the newest entry and the log before it.
-/

namespace EspFirmware.Library

universe u

variable
    {Entry : Type u}
    {opens closes : Entry → Prop}
    {fits : List Entry → Entry → Prop}
    {log : List Entry}
    {entry : Entry}

/-- Some entry opens, and no entry behind it closes. -/
def Open (opens closes : Entry → Prop) (log : List Entry) : Prop :=
  ∃ front opening back,
    log = front ++ opening :: back ∧ opens opening ∧
      ∀ later ∈ back, ¬ closes later

/-- Every entry fits the log in front of it. -/
def Justified (fits : List Entry → Entry → Prop) (log : List Entry) : Prop :=
  ∀ front entry back, log = front ++ entry :: back → fits front entry

/-- Where an entry of a longer log lies: it is the newest one, or it was there before. -/
theorem split_concat
    {front back : List Entry} {middle : Entry}
    (layout : log ++ [entry] = front ++ middle :: back) :
    front = log ∧ middle = entry ∧ back = [] ∨
      ∃ older, back = older ++ [entry] ∧ log = front ++ middle :: older := by
  rcases List.eq_nil_or_concat back with rfl | ⟨older, last, rfl⟩
  · rcases List.append_inj' layout rfl with ⟨rest, same⟩
    exact Or.inl ⟨rest.symm, (List.singleton_inj.mp same).symm, rfl⟩
  · rw [List.concat_eq_append] at layout ⊢
    rw [← List.cons_append, ← List.append_assoc] at layout
    rcases List.append_inj' layout rfl with ⟨rest, same⟩
    exact Or.inr ⟨older, by rw [List.singleton_inj.mp same], rest⟩

/-- Where an entry of a log with others behind it lies: before these, or among them. -/
theorem split_append
    {front back entries : List Entry} {middle : Entry}
    (layout : log ++ entries = front ++ middle :: back) :
    (∃ older, back = older ++ entries ∧ log = front ++ middle :: older) ∨
      ∃ newer, front = log ++ newer ∧ entries = newer ++ middle :: back := by
  rcases List.append_eq_append_iff.mp layout with
    ⟨newer, same, rest⟩ | ⟨older, same, rest⟩
  · exact .inr ⟨newer, same, rest⟩
  · cases older with
    | nil =>
        rw [List.append_nil] at same
        exact .inr ⟨[], by rw [same, List.append_nil], rest.symm⟩
    | cons head older =>
        rw [List.cons_append, List.cons.injEq] at rest
        rw [← rest.1] at same
        exact .inl ⟨older, rest.2, same⟩

/-- The newest entry opens the log, or leaves it open. -/
theorem open_concat :
    Open opens closes (log ++ [entry]) ↔
      opens entry ∨ Open opens closes log ∧ ¬ closes entry := by
  constructor
  · rintro ⟨front, opening, back, layout, opened, unclosed⟩
    rcases split_concat layout with ⟨-, rfl, -⟩ | ⟨older, rfl, rest⟩
    · exact Or.inl opened
    · refine Or.inr ⟨⟨front, opening, older, rest, opened, ?_⟩, ?_⟩
      · intro later member
        exact unclosed later (List.mem_append_left _ member)
      · exact unclosed entry (by simp)
  · rintro (opened | ⟨⟨front, opening, back, layout, opened, unclosed⟩, kept⟩)
    · refine ⟨log, entry, [], rfl, opened, ?_⟩
      intro later member
      cases member
    · refine ⟨front, opening, back ++ [entry], ?_, opened, ?_⟩
      · rw [layout, List.append_assoc, List.cons_append]
      · intro later member
        rcases List.mem_append.mp member with old | new
        · exact unclosed later old
        · exact List.mem_singleton.mp new ▸ kept

/-- Entries behind a log open and close it one after the other. -/
theorem open_append (entries : List Entry) :
    Open opens closes (log ++ entries) ↔
      entries.foldl (fun opened entry => opens entry ∨ opened ∧ ¬closes entry)
        (Open opens closes log) := by
  induction entries generalizing log with
  | nil =>
      rw [List.append_nil, List.foldl_nil]
  | cons entry rest induction =>
      have first : log ++ entry :: rest = log ++ [entry] ++ rest := by
        rw [List.append_assoc, List.singleton_append]
      rw [first, induction, List.foldl_cons, open_concat]

theorem justified_nil :
    Justified fits [] := by
  intro front entry back layout
  simp at layout

theorem justified_concat :
    Justified fits (log ++ [entry]) ↔ Justified fits log ∧ fits log entry := by
  constructor
  · intro justified
    refine ⟨?_, justified log entry [] rfl⟩
    intro front old back layout
    exact justified front old (back ++ [entry]) (by simp [layout])
  · rintro ⟨justified, fitting⟩ front middle back layout
    rcases split_concat layout with ⟨rfl, rfl, -⟩ | ⟨older, -, rest⟩
    · exact fitting
    · exact justified front middle older rest

/-- The oldest entry fits an empty log, and the others fit a log with it. -/
theorem justified_cons :
    Justified fits (entry :: log) ↔
      fits [] entry ∧ Justified (fun earlier => fits (entry :: earlier)) log := by
  constructor
  · intro justified
    refine ⟨justified [] entry log rfl, ?_⟩
    intro front middle back layout
    exact justified (entry :: front) middle back (by rw [layout]; rfl)
  · rintro ⟨first, justified⟩ front middle back layout
    cases front with
    | nil =>
        rw [List.nil_append, List.cons.injEq] at layout
        exact layout.1 ▸ first
    | cons head front =>
        rw [List.cons_append, List.cons.injEq] at layout
        exact layout.1 ▸ justified front middle back layout.2

theorem Justified.imp
    {fitting : List Entry → Entry → Prop}
    (justified : Justified fits log)
    (weaker : ∀ front entry, fits front entry → fitting front entry) :
    Justified fitting log := by
  intro front entry back layout
  exact weaker front entry (justified front entry back layout)

/-- A log behind another one fits what both have held. -/
theorem justified_append
    {front back : List Entry} :
    Justified fits (front ++ back) ↔
      Justified fits front ∧
        Justified (fun earlier => fits (front ++ earlier)) back := by
  induction front generalizing fits with
  | nil =>
      exact (and_iff_right justified_nil).symm
  | cons entry front induction =>
      rw [List.cons_append, justified_cons, induction, justified_cons,
        and_assoc]
      rfl

/-- Entries which fit any log fit this one. -/
theorem Justified.append
    {entries : List Entry}
    (justified : Justified fits log)
    (free : ∀ entry ∈ entries, ∀ front, fits front entry) :
    Justified fits (log ++ entries) := by
  refine justified_append.mpr ⟨justified, ?_⟩
  intro front middle back layout
  exact free middle (by simp [layout]) _

/-- A log stays open behind entries which do not close it. -/
theorem Open.append
    {entries : List Entry}
    (opened : Open opens closes log)
    (kept : ∀ entry ∈ entries, ¬ closes entry) :
    Open opens closes (log ++ entries) := by
  rcases opened with ⟨front, opening, back, layout, opens, unclosed⟩
  refine ⟨front, opening, back ++ entries, by simp [layout], opens, ?_⟩
  intro later member
  rcases List.mem_append.mp member with old | new
  · exact unclosed later old
  · exact kept later new

/-- A log is open behind an entry which opens it, and others which do not close it. -/
theorem open_append_of_opens
    {entries : List Entry}
    (opening : opens entry)
    (kept : ∀ later ∈ entries, ¬ closes later) :
    Open opens closes (log ++ entry :: entries) :=
  ⟨log, entry, entries, rfl, opening, kept⟩

/-- A log stays open where less closes it. -/
theorem Open.of_closes
    {ends : Entry → Prop}
    (opened : Open opens closes log)
    (less : ∀ entry, ends entry → closes entry) :
    Open opens ends log := by
  rcases opened with ⟨front, opening, back, layout, opens, unclosed⟩
  refine ⟨front, opening, back, layout, opens, ?_⟩
  intro later member ended
  exact unclosed later member (less later ended)

/-- A log that is open after an entry which closes was opened behind it. -/
theorem Open.opened_behind
    {front back : List Entry}
    (opened : Open opens closes (front ++ entry :: back))
    (closing : closes entry)
    (plain : ¬ opens entry) :
    ∃ opening ∈ back, opens opening := by
  rcases opened with ⟨before, opening, after, layout, opens, unclosed⟩
  rcases List.append_eq_append_iff.mp layout with
    ⟨middle, rfl, rest⟩ | ⟨middle, rfl, rest⟩
  · cases middle with
    | nil =>
        rw [List.nil_append, List.cons.injEq] at rest
        exact absurd (rest.1 ▸ opens) plain
    | cons head tail =>
        rw [List.cons_append, List.cons.injEq] at rest
        exact ⟨opening, by simp [rest.2], opens⟩
  · cases middle with
    | nil =>
        rw [List.nil_append, List.cons.injEq] at rest
        exact absurd (rest.1 ▸ opens) plain
    | cons head tail =>
        rw [List.cons_append, List.cons.injEq] at rest
        exact absurd closing (unclosed entry (by simp [rest.2]))

/-! ## The newest part of a log -/

/-- The entries behind the last one which is marked. -/
def since (marked : Entry → Bool) (log : List Entry) : List Entry :=
  log.foldl (fun back entry => if marked entry then [] else back ++ [entry]) []

theorem since_concat
    (marked : Entry → Bool) (log : List Entry) (entry : Entry) :
    since marked (log ++ [entry]) =
      if marked entry then [] else since marked log ++ [entry] := by
  rw [since, List.foldl_append]
  rfl

/-- Entries which are not marked come behind the others. -/
theorem since_append
    {marked : Entry → Bool} {entries : List Entry}
    (plain : ∀ entry ∈ entries, marked entry = false)
    (log : List Entry) :
    since marked (log ++ entries) = since marked log ++ entries := by
  induction entries generalizing log with
  | nil =>
      rw [List.append_nil, List.append_nil]
  | cons entry entries induction =>
      have first := plain entry List.mem_cons_self
      have rest := induction (fun other member => plain other (.tail _ member))
      rw [List.append_cons, rest, since_concat, first,
        if_neg Bool.false_ne_true, List.append_assoc]
      rfl

/-- A marked entry hides what was before it. -/
theorem since_append_of_marked
    {marked : Entry → Bool} {entries : List Entry} {entry : Entry}
    (mark : marked entry = true)
    (plain : ∀ other ∈ entries, marked other = false)
    (log : List Entry) :
    since marked (log ++ entry :: entries) = entries := by
  rw [List.append_cons, since_append plain, since_concat, if_pos mark,
    List.nil_append]

/-! ## Logs which end early -/

/-- A trace up to its first fatal entry, which ends it. -/
def uptoFirst (fatal : Entry → Bool) : List Entry → List Entry
  | [] => []
  | entry :: rest =>
      if fatal entry then [entry] else entry :: uptoFirst fatal rest

theorem uptoFirst_append
    {fatal : Entry → Bool} {front : List Entry}
    (harmless : ∀ entry ∈ front, fatal entry = false)
    (back : List Entry) :
    uptoFirst fatal (front ++ back) = front ++ uptoFirst fatal back := by
  induction front with
  | nil =>
      rfl
  | cons entry rest induction =>
      have first := harmless entry List.mem_cons_self
      rw [List.cons_append, uptoFirst, first, if_neg Bool.false_ne_true,
        induction fun other member => harmless other (.tail _ member)]
      rfl

/-- A trace without a fatal entry does not end early. -/
theorem uptoFirst_of_harmless
    {fatal : Entry → Bool} {entries : List Entry}
    (harmless : ∀ entry ∈ entries, fatal entry = false) :
    uptoFirst fatal entries = entries := by
  have whole := uptoFirst_append harmless []
  rw [List.append_nil] at whole
  exact whole.trans (List.append_nil entries)

theorem uptoFirst_of_fatal
    {fatal : Entry → Bool} {front : List Entry} {last : Entry}
    (harmless : ∀ entry ∈ front, fatal entry = false)
    (ends : fatal last = true)
    (back : List Entry) :
    uptoFirst fatal (front ++ last :: back) = front ++ [last] := by
  rw [uptoFirst_append harmless, uptoFirst, if_pos ends]

end EspFirmware.Library
