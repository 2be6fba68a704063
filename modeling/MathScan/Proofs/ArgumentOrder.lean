import MathScan.Proofs.Dump

/-
  The order of arguments. A command line that is made of
  groups, each of which asks for the log, for a mode or for a
  file, asks for all of them, wherever they stand: for the log
  if one group does, for the mode of the last group that names
  one, and for the file if there is one. More than one file is
  refused.

  Key definitions include:
    * `Group`
    * `Group.line`
    * `Group.asked`
    * `Progress.take`
    * `Progress.after`
    * `ReadInAnyOrder`

  The key statements are:
    * `Group.ofArguments_line`
    * `Progress.ofItems_group`
    * `Progress.ofItems_groups`
    * `Group.asked_eq_of_perm`
    * `readInAnyOrder`
-/

------------------------------------------------------------
-- Groups of Arguments
------------------------------------------------------------

namespace MathScan.CommandLine

/- Whether an argument has no dash in front. -/
def isPlain
    (argument : String) : Bool :=
  argument.toList.head? != some '-'

/- Arguments that belong together. -/
inductive Group where
  /- The log, under its long or its short spelling. -/
  | verbose (long : Bool)
  /- A mode, attached to its switch or as an argument behind it. -/
  | numbers (mode : NumberMode) (attached : Bool)
  /- A file, the path of which has no dash in front. -/
  | file (path : String) (hPlain : isPlain path = true)

namespace Group

def arguments : Group → List String
  | verbose true => ["--verbose"]
  | verbose false => ["-v"]
  | numbers mode true => ["--numbers=" ++ mode.spelling]
  | numbers mode false => ["--numbers", mode.spelling]
  | file path _ => [path]

def items : Group → List Item
  | verbose long => [.switch (.flag .verbose) (!long) none]
  | numbers mode true =>
    [.switch .numbers false (some mode.spelling)]
  | numbers mode false =>
    [.switch .numbers false none, .operand mode.spelling]
  | file path _ => [.operand path]

def isVerbose : Group → Bool
  | verbose _ => true
  | _ => false

def isNumbers : Group → Bool
  | numbers _ _ => true
  | _ => false

def mode? : Group → Option NumberMode
  | numbers mode _ => some mode
  | _ => none

def file? : Group → Option String
  | file path _ => some path
  | _ => none

/- The command line that is made of groups. -/
def line
    (groups : List Group) : List String :=
  groups.flatMap arguments

def files
    (groups : List Group) : List String :=
  groups.filterMap file?

def modes
    (groups : List Group) : List NumberMode :=
  groups.filterMap mode?

/-
  What groups ask for: their file, the last of their modes, and
  the log if one of them does.
-/
def asked
    (groups : List Group) : Arguments :=
  { file := (files groups).head?
    numbers := (modes groups).getLast?
    verbose := groups.any isVerbose }

section Cons

variable (groups : List Group)

@[simp] theorem files_verbose
    (long : Bool) :
    files (verbose long :: groups) = files groups :=
  rfl

@[simp] theorem files_numbers
    (mode : NumberMode)
    (attached : Bool) :
    files (numbers mode attached :: groups) = files groups :=
  rfl

@[simp] theorem files_file
    (path : String)
    (hPlain : isPlain path = true) :
    files (file path hPlain :: groups) = path :: files groups :=
  rfl

@[simp] theorem modes_verbose
    (long : Bool) :
    modes (verbose long :: groups) = modes groups :=
  rfl

@[simp] theorem modes_numbers
    (mode : NumberMode)
    (attached : Bool) :
    modes (numbers mode attached :: groups) =
      mode :: modes groups :=
  rfl

@[simp] theorem modes_file
    (path : String)
    (hPlain : isPlain path = true) :
    modes (file path hPlain :: groups) = modes groups :=
  rfl

end Cons

end Group

end MathScan.CommandLine

------------------------------------------------------------
-- Items of Groups
------------------------------------------------------------

namespace MathScan.CommandLine

/- An argument without a dash in front is an operand. -/
theorem Item.ofArgument_of_plain
    {path : String}
    (hPlain : isPlain path = true) :
    Item.ofArgument path = .ok (.operand path) := by
  unfold Item.ofArgument
  cases hChars : path.toList with
  | nil => rfl
  | cons c rest =>
      have hDash : c ≠ '-' := by
        simpa [isPlain, hChars] using hPlain
      split
      · rfl
      · rfl
      · rename_i hCons
        rw [← (List.cons.inj hCons).1, if_pos hDash]

/- The item of an argument stands before those of the rest. -/
theorem Item.ofArguments_cons
    {argument : String}
    {item : Item}
    (hMarker : argument ≠ "--")
    (hItem : Item.ofArgument argument = .ok item)
    (rest : List String) :
    Item.ofArguments (argument :: rest) =
      (Item.ofArguments rest).map (item :: ·) := by
  rw [Item.ofArguments, if_neg hMarker, hItem]

namespace Group

/- The items of a group stand before those of the rest. -/
theorem ofArguments_append
    (g : Group)
    (rest : List String) :
    Item.ofArguments (g.arguments ++ rest) =
      (Item.ofArguments rest).map (g.items ++ ·) := by
  cases g with
  | verbose long =>
      cases long with
      | true =>
          exact Item.ofArguments_cons (by decide) (by decide) rest
      | false =>
          exact Item.ofArguments_cons (by decide) (by decide) rest
  | numbers mode attached =>
      cases attached with
      | true =>
          cases mode with
          | singleDigit =>
              exact
                Item.ofArguments_cons (by decide) (by decide) rest
          | greedy =>
              exact
                Item.ofArguments_cons (by decide) (by decide) rest
      | false =>
          have hMode : mode.spelling ≠ "--" := by
            cases mode <;> decide
          have hItem :
              Item.ofArgument mode.spelling =
                .ok (.operand mode.spelling) := by
            cases mode <;> decide
          have hSwitch :
              Item.ofArgument "--numbers" =
                .ok (.switch .numbers false none) := by
            decide
          rw [arguments, List.cons_append, List.cons_append,
            Item.ofArguments_cons (by decide) hSwitch,
            List.nil_append, Item.ofArguments_cons hMode hItem]
          cases Item.ofArguments rest with
          | error e => rfl
          | ok all => rfl
  | file path hPlain =>
      have hMarker : path ≠ "--" := by
        rintro rfl
        exact absurd hPlain (by decide)
      exact
        Item.ofArguments_cons hMarker
          (Item.ofArgument_of_plain hPlain) rest

/- The items of groups are those of each of them. -/
theorem ofArguments_line
    (groups : List Group) :
    Item.ofArguments (line groups) =
      .ok (groups.flatMap items) := by
  induction groups with
  | nil => rfl
  | cons g more ih =>
      unfold line at ih ⊢
      rw [List.flatMap_cons, ofArguments_append, ih,
        List.flatMap_cons]
      rfl

end Group

end MathScan.CommandLine

------------------------------------------------------------
-- Reading Groups
------------------------------------------------------------

namespace MathScan.CommandLine

namespace Progress

/- What is known after a group. A second file is left over. -/
def take
    (p : Progress) : Group → Progress
  | .verbose _ => p.setVerbose
  | .numbers mode _ => p.setNumbers (some mode)
  | .file path _ =>
    if p.arguments.file.isNone then
      p.takeFile path
    else
      p.leave path

/- What is known after groups, wherever each of them stands. -/
def after
    (p : Progress)
    (groups : List Group) : Progress :=
  { arguments :=
      { file := p.arguments.file.or (Group.files groups).head?
        numbers :=
          (Group.modes groups).getLast?.or p.arguments.numbers
        verbose :=
          p.arguments.verbose || groups.any Group.isVerbose }
    leftOver :=
      p.leftOver ++
        if p.arguments.file.isNone then
          (Group.files groups).tail
        else
          Group.files groups }

@[simp] theorem after_nil
    (p : Progress) :
    p.after [] = p := by
  rcases p with ⟨⟨file, numbers, verbose⟩, leftOver⟩
  simp [after, Group.files, Group.modes]

/- Before all arguments, groups ask for nothing else. -/
theorem start_after
    (groups : List Group) :
    start.after groups =
      ⟨Group.asked groups, (Group.files groups).tail⟩ := by
  simp [after, start, Group.asked]

/- What is known after groups is taken from them one by one. -/
theorem after_cons
    (p : Progress)
    (g : Group)
    (more : List Group) :
    p.after (g :: more) = (p.take g).after more := by
  rcases p with ⟨⟨known, numbers, verbose⟩, leftOver⟩
  cases g with
  | verbose long =>
      simp [after, take, setVerbose, Group.isVerbose]
  | numbers mode attached =>
      have hLast :
          (mode :: Group.modes more).getLast?.or numbers =
            (Group.modes more).getLast?.or (some mode) := by
        rw [List.getLast?_cons]
        cases (Group.modes more).getLast? with
        | none => rfl
        | some last => rfl
      simp [after, take, setNumbers, Group.isVerbose, hLast]
  | file path hPlain =>
      cases known with
      | none =>
          simp [after, take, takeFile, Group.isVerbose]
      | some first =>
          simp [after, take, leave, Group.isVerbose]

/-
  One group is read, unless the marker stands behind it, which
  vanishes behind a file.
-/
theorem ofItems_group
    (p : Progress)
    (g : Group)
    {rest : List Item}
    (hRest : rest.head? ≠ some .marker) :
    Demand.ofItems p (g.items ++ rest) =
      Demand.ofItems (p.take g) rest := by
  cases g with
  | verbose long => rfl
  | numbers mode attached =>
      have hChoose :
          chooseMode mode.spelling = .ok (some mode) := by
        cases mode <;> decide
      cases attached with
      | true =>
          simp only [Group.items, List.cons_append,
            List.nil_append, Demand.ofItems, hChoose, take]
      | false =>
          simp only [Group.items, List.cons_append,
            List.nil_append, Demand.ofItems, hChoose, take]
  | file path hPlain =>
      have hRead :
          Demand.ofItems p (.operand path :: rest) =
            if p.arguments.file.isNone then
              Demand.ofItems (p.takeFile path) rest
            else
              Demand.ofItems (p.leave path) rest := by
        refine Demand.ofItems.eq_3 p path rest ?_
        rintro more rfl
        exact hRest rfl
      rw [Group.items, List.singleton_append, hRead, take]
      split
      · rfl
      · rfl

/- No group is read as the marker. -/
theorem head?_items_ne_marker
    (groups : List Group) :
    (groups.flatMap Group.items).head? ≠ some .marker := by
  cases groups with
  | nil => simp
  | cons g more =>
      cases g with
      | verbose long => simp [Group.items]
      | numbers mode attached =>
          cases attached with
          | true => simp [Group.items]
          | false => simp [Group.items]
      | file path hPlain => simp [Group.items]

/- All groups are read. -/
theorem ofItems_groups
    (p : Progress)
    (groups : List Group) :
    Demand.ofItems p (groups.flatMap Group.items) =
      Demand.ofItems (p.after groups) [] := by
  induction groups generalizing p with
  | nil => rw [after_nil, List.flatMap_nil]
  | cons g more ih =>
      rw [List.flatMap_cons,
        ofItems_group p g (head?_items_ne_marker more), ih,
        after_cons]

end Progress

end MathScan.CommandLine

------------------------------------------------------------
-- Groups in Another Order
------------------------------------------------------------

namespace MathScan.CommandLine

namespace Group

/- The arguments of all groups that name no mode. -/
def others
    (groups : List Group) : List String :=
  line (groups.filter (fun g => !g.isNumbers))

/- Groups that name no mode have one argument each. -/
theorem others_cons
    (g : Group)
    (more : List Group) :
    others (g :: more) =
      (if g.isNumbers then [] else g.arguments) ++
        others more := by
  unfold others line
  cases hNumbers : g.isNumbers with
  | true => simp [hNumbers]
  | false => simp [hNumbers]

/- The files are the arguments without a dash among them. -/
theorem files_eq_filter_others
    (groups : List Group) :
    files groups = (others groups).filter isPlain := by
  induction groups with
  | nil => rfl
  | cons g more ih =>
      rw [others_cons, List.filter_append, ← ih]
      cases g with
      | verbose long => cases long <;> rfl
      | numbers mode attached => rfl
      | file path hPlain =>
          simp [isNumbers, arguments, hPlain]

/- The log is asked for by an argument with a dash among them. -/
theorem any_isVerbose_eq_any_others
    (groups : List Group) :
    groups.any isVerbose =
      (others groups).any (fun argument => !isPlain argument) := by
  induction groups with
  | nil => rfl
  | cons g more ih =>
      rw [others_cons, List.any_append, List.any_cons, ih]
      cases g with
      | verbose long => cases long <;> rfl
      | numbers mode attached => rfl
      | file path hPlain =>
          simp [isNumbers, isVerbose, arguments, hPlain]

/- Only groups that name a mode make a difference to the modes. -/
theorem modes_filter_isNumbers
    (groups : List Group) :
    modes (groups.filter isNumbers) = modes groups := by
  induction groups with
  | nil => rfl
  | cons g more ih =>
      cases g with
      | verbose long => exact ih
      | numbers mode attached => exact congrArg (mode :: ·) ih
      | file path hPlain => exact ih

variable {groups changed : List Group}

/-
  The arguments of the other groups are in another order too,
  if the groups that name a mode keep theirs.
-/
theorem others_perm
    (hPerm : (line groups).Perm (line changed))
    (hNumbers :
      groups.filter isNumbers = changed.filter isNumbers) :
    (others groups).Perm (others changed) := by
  have hSplit :
      ∀ all : List Group,
        (line (all.filter isNumbers) ++ others all).Perm
          (line all) := by
    intro all
    have hParts := List.filter_append_perm isNumbers all
    have hLine := hParts.flatMap_right arguments
    rw [List.flatMap_append] at hLine
    exact hLine
  have hAll :=
    ((hSplit groups).trans hPerm).trans (hSplit changed).symm
  rw [hNumbers] at hAll
  exact (List.perm_append_left_iff _).mp hAll

/- The files are the same ones if there is one at most. -/
theorem files_eq_of_perm
    (hOne : (files groups).length ≤ 1)
    (hPerm : (others groups).Perm (others changed)) :
    files changed = files groups := by
  have hFiles := hPerm.filter isPlain
  rw [← files_eq_filter_others, ← files_eq_filter_others]
    at hFiles
  cases hOwn : files groups with
  | nil =>
      rw [hOwn] at hFiles
      exact hFiles.symm.eq_nil
  | cons path more =>
      rw [hOwn, List.length_cons] at hOne
      have hNone : more = [] := by
        rw [← List.length_eq_zero_iff]
        omega
      rw [hOwn, hNone] at hFiles
      rw [hNone]
      exact hFiles.symm.eq_singleton

/- Groups in another order ask for the same. -/
theorem asked_eq_of_perm
    (hOne : (files groups).length ≤ 1)
    (hPerm : (line groups).Perm (line changed))
    (hNumbers :
      groups.filter isNumbers = changed.filter isNumbers) :
    asked changed = asked groups := by
  have hOthers := others_perm hPerm hNumbers
  have hFiles := files_eq_of_perm hOne hOthers
  have hModes : modes changed = modes groups := by
    rw [← modes_filter_isNumbers, ← hNumbers,
      modes_filter_isNumbers]
  have hLog :
      changed.any isVerbose = groups.any isVerbose := by
    rw [any_isVerbose_eq_any_others,
      any_isVerbose_eq_any_others, hOthers.any_eq]
  rw [asked, asked, hFiles, hModes, hLog]

end Group

end MathScan.CommandLine

------------------------------------------------------------
-- Any Order
------------------------------------------------------------

namespace MathScan.CommandLine

/-
  How a command line is read that is made of groups:

  If no two groups name files, the arguments are accepted and
  ask for what the groups ask for. The standard input is read
  if there is no file or its path is empty. A command line with
  the same arguments in another order, in which the groups that
  name a mode keep theirs, gives the same run. If two groups
  name files, all files but the first are refused, and nothing
  is printed.
-/
structure ReadInAnyOrder
    (groups : List Group) : Prop where
  demand :
    (Group.files groups).length ≤ 1 →
      Demand.ofArguments (Group.line groups) =
        .ok (.scan (Group.asked groups))
  run_eq :
    (Group.files groups).length ≤ 1 →
      ∀ (closed : Bool) (world : World closed),
        run (Group.line groups) world =
          scan world (Group.asked groups)
  reads_input :
    (Group.files groups).length ≤ 1 →
      (∀ path ∈ Group.files groups, path = "") →
        ∀ (closed : Bool) (world : World closed) setting,
          NumberMode.ofEnvironment world.lookup = .ok setting →
            Scans (Group.line groups) world
              ((Group.modes groups).getLast?.getD setting)
              (groups.any Group.isVerbose) inputName world.input
              world.reading
  run_perm :
    (Group.files groups).length ≤ 1 →
      ∀ changed : List Group,
        (Group.line groups).Perm (Group.line changed) →
          groups.filter Group.isNumbers =
              changed.filter Group.isNumbers →
            ∀ (closed : Bool) (world : World closed),
              run (Group.line changed) world =
                run (Group.line groups) world
  refused :
    2 ≤ (Group.files groups).length →
      Demand.ofArguments (Group.line groups) =
        .error (.unrecognized (Group.files groups).tail)
  run_refused :
    2 ≤ (Group.files groups).length →
      ∀ (closed : Bool) (world : World closed), ∃ outcome,
        run (Group.line groups) world = .ok outcome ∧
          outcome.status = 2 ∧ outcome.output = ""

/- What groups ask for, by the files that they name. -/
theorem Group.demand_line
    (groups : List Group) :
    Demand.ofArguments (line groups) =
      if (files groups).tail = [] then
        .ok (.scan (asked groups))
      else
        .error (.unrecognized (files groups).tail) := by
  have hRead := Progress.ofItems_groups .start groups
  rw [Progress.start_after, Demand.ofItems] at hRead
  rw [Demand.ofArguments, ofArguments_line]
  exact hRead

theorem Group.demand_of_length_le
    {groups : List Group}
    (hOne : (files groups).length ≤ 1) :
    Demand.ofArguments (line groups) =
      .ok (.scan (asked groups)) := by
  have hNone : (files groups).tail = [] := by
    rw [← List.length_eq_zero_iff, List.length_tail]
    omega
  rw [demand_line, if_pos hNone]

theorem Group.demand_of_le_length
    {groups : List Group}
    (hMore : 2 ≤ (files groups).length) :
    Demand.ofArguments (line groups) =
      .error (.unrecognized (files groups).tail) := by
  have hSome : (files groups).tail ≠ [] := by
    rw [ne_eq, ← List.length_eq_zero_iff, List.length_tail]
    omega
  rw [demand_line, if_neg hSome]

theorem readInAnyOrder
    (groups : List Group) :
    ReadInAnyOrder groups := by
  have hRun :
      ∀ all : List Group,
        (Group.files all).length ≤ 1 →
          ∀ (closed : Bool) (world : World closed),
            run (Group.line all) world =
              scan world (Group.asked all) := by
    intro all hOne closed world
    rw [run, Group.demand_of_length_le hOne]
  refine
    { demand := Group.demand_of_length_le
      run_eq := hRun groups
      reads_input := ?_
      run_perm := ?_
      refused := Group.demand_of_le_length
      run_refused := ?_ }
  · intro hOne hEmpty closed world setting hSetting
    have hFile :
        (Group.asked groups).file = none ∨
          (Group.asked groups).file = some "" := by
      cases hFirst : (Group.asked groups).file with
      | none => exact .inl rfl
      | some path =>
          have hMem := List.mem_of_mem_head? hFirst
          exact .inr (congrArg some (hEmpty path hMem))
    exact .input (Group.demand_of_length_le hOne) hSetting hFile
  · intro hOne changed hPerm hNumbers closed world
    have hFiles :=
      Group.files_eq_of_perm hOne
        (Group.others_perm hPerm hNumbers)
    have hOther : (Group.files changed).length ≤ 1 := by
      rw [hFiles]
      exact hOne
    rw [hRun changed hOther, hRun groups hOne,
      Group.asked_eq_of_perm hOne hPerm hNumbers]
  · intro hMore closed world
    refine
      ⟨refused (.unrecognized (Group.files groups).tail), ?_, rfl,
        rfl⟩
    rw [run, Group.demand_of_le_length hMore]

end MathScan.CommandLine
