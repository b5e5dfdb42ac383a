import LoaderGen.Glob.Basic

/-!
# Reading globs

`*` is any run and `?` any byte; `[a-z]` is one byte of a class, and one not of it after `!` or `^`;
`{a,b}` is a choice, in which a branch that matches nothing is dropped; a backslash makes the next
character literal. Two stars beside slashes span whole segments, and are two runs elsewhere.
-/

namespace LoaderGen.Glob

/-- Why a text is no glob. -/
inductive Fault where
  | unclosedClass
  | invalidRange (first last : Char)
  | unopenedGroup
  | unclosedGroup
  | danglingEscape
  deriving DecidableEq, Repr

def Fault.reason : Fault → String
  | unclosedClass => "unclosed character class; missing ']'"
  | invalidRange first last => s!"invalid range; '{first}' > '{last}'"
  | unopenedGroup =>
    "unopened alternate group; missing '\x7b' (maybe escape '\x7d' with '[\x7d]'?)"
  | unclosedGroup =>
    "unclosed alternate group; missing '\x7d' (maybe escape '\x7b' with '[\x7b]'?)"
  | danglingEscape => "dangling '\\'"

/-- The explanation of a fault in the given glob. -/
def Fault.message (glob : String) (fault : Fault) : String :=
  s!"error parsing glob '{glob}': {fault.reason}"

/-- A class before its closing bracket. -/
structure ClassDraft where
  negated : Bool
  /-- The ranges so far, last first. -/
  ranges : List (Char × Char) := []
  /-- The last character was a dash after another one. -/
  afterDash : Bool := false

namespace ClassDraft

/-- The class with one more character. A dash stands between the ends of a range, and for itself
where it comes first. -/
def add (draft : ClassDraft) (c : Char) : Except Fault ClassDraft :=
  match draft.ranges with
  | [] => .ok { draft with ranges := [(c, c)] }
  | (first, last) :: others =>
    if draft.afterDash then
      if c < first then .error (.invalidRange first c)
      else .ok { draft with ranges := (first, c) :: others, afterDash := false }
    else if c = '-' then .ok { draft with afterDash := true }
    else .ok { draft with ranges := (c, c) :: (first, last) :: others }

/-- The finished class; a dash before the bracket stands for itself. -/
def token (draft : ClassDraft) : Token :=
  .oneOf draft.negated <|
    (if draft.afterDash then ('-', '-') :: draft.ranges else draft.ranges).reverse

/-- Reads a class up to its closing bracket, and what follows. A bracket that comes first stands for
itself. -/
def read (draft : ClassDraft) : List Char → Except Fault (Token × List Char)
  | [] => .error .unclosedClass
  | c :: rest =>
    if c = ']' ∧ draft.ranges ≠ [] then .ok (draft.token, rest)
    else do read (← draft.add c) rest

/-- Reads a class after its opening bracket. -/
def readWhole : List Char → Except Fault (Token × List Char)
  | '!' :: rest => read ⟨true, [], false⟩ rest
  | '^' :: rest => read ⟨true, [], false⟩ rest
  | cs => read ⟨false, [], false⟩ cs

theorem length_lt_of_read {draft : ClassDraft} {cs after : List Char} {token : Token}
    (h : draft.read cs = .ok (token, after)) : after.length < cs.length := by
  induction cs generalizing draft with
  | nil => simp [read] at h
  | cons c rest ih =>
    rw [read] at h
    split at h
    · cases h
      simp
    · cases hadd : draft.add c with
      | error fault => simp [hadd, bind, Except.bind] at h
      | ok next =>
        have hread : next.read rest = .ok (token, after) := by
          simpa [hadd, bind, Except.bind] using h
        have := ih hread
        simp only [List.length_cons]
        omega

theorem length_lt_of_readWhole {cs after : List Char} {token : Token}
    (h : readWhole cs = .ok (token, after)) : after.length < cs.length := by
  unfold readWhole at h
  split at h
  · have := length_lt_of_read h
    simp only [List.length_cons]
    omega
  · have := length_lt_of_read h
    simp only [List.length_cons]
    omega
  · exact length_lt_of_read h

end ClassDraft

/-- A glob read in part. -/
structure Draft where
  /-- The tokens of the branch being read, last first. -/
  tokens : List Token := []
  /-- The groups around it, innermost first: the finished branches, last first, and the tokens
  before the group, last first. -/
  groups : List (List (List Token) × List Token) := []

namespace Draft

def push (draft : Draft) (token : Token) : Draft := { draft with tokens := token :: draft.tokens }

def inGroup (draft : Draft) : Bool := !draft.groups.isEmpty

def openGroup (draft : Draft) : Draft :=
  { tokens := [], groups := ([], draft.tokens) :: draft.groups }

/-- A comma ends a branch inside a group, and is literal elsewhere. -/
def comma (draft : Draft) : Draft :=
  match draft.groups with
  | [] => draft.push (.literal ',')
  | (branches, before) :: outer =>
    { tokens := [], groups := (draft.tokens.reverse :: branches, before) :: outer }

/-- A branch without tokens, or whose tokens are groups that match nothing. -/
def isVoid (branch : List Token) : Bool :=
  branch.all fun token =>
    match token with
    | .alternatives [] => true
    | _ => false

def closeGroup (draft : Draft) : Except Fault Draft :=
  match draft.groups with
  | [] => .error .unopenedGroup
  | (branches, before) :: outer =>
    let all := (draft.tokens.reverse :: branches).reverse
    .ok { tokens := .alternatives (all.filter fun branch => !isVoid branch) :: before,
          groups := outer }

/-- Two stars between the character `before` and the character `after`, of which the second is a
slash that they take in if the answer says so. -/
def doubleStar (draft : Draft) (before after : Option Char) : Draft × Bool :=
  let twoRuns := ((draft.push .anyRun).push .anyRun, false)
  match draft.tokens with
  | [] => if after = none ∨ after = some '/' then (draft.push .leading, true) else twoRuns
  | last :: others =>
    let opened := before = some '/' ∨ (draft.inGroup ∧ (before = some ',' ∨ before = some '\x7b'))
    let closed := after = none ∨ (draft.inGroup ∧ (after = some ',' ∨ after = some '\x7d'))
    let spanning : Token := match last with
      | .leading => .leading
      | .trailing => .trailing
      | _ => if closed then .trailing else .between
    if opened ∧ (closed ∨ after = some '/') then
      ({ draft with tokens := spanning :: others }, !closed)
    else twoRuns

def finish (draft : Draft) : Except Fault (List Token) :=
  if draft.inGroup then .error .unclosedGroup else .ok draft.tokens.reverse

end Draft

/-- Reads on after the character `before`. -/
def readFrom (before : Option Char) (draft : Draft) : List Char → Except Fault (List Token)
  | [] => draft.finish
  | '?' :: rest => readFrom (some '?') (draft.push .anyByte) rest
  | '*' :: '*' :: rest =>
    let (draft, takesSlash) := draft.doubleStar before rest.head?
    if takesSlash then readFrom (some '/') draft rest.tail else readFrom (some '*') draft rest
  | '*' :: rest => readFrom (some '*') (draft.push .anyRun) rest
  | '[' :: rest =>
    match h : ClassDraft.readWhole rest with
    | .ok (token, after) =>
      have := ClassDraft.length_lt_of_readWhole h
      readFrom (some ']') (draft.push token) after
    | .error fault => .error fault
  | '\x7b' :: rest => readFrom (some '\x7b') draft.openGroup rest
  | '\x7d' :: rest => do readFrom (some '\x7d') (← draft.closeGroup) rest
  | ',' :: rest => readFrom (some ',') draft.comma rest
  | ['\\'] => .error .danglingEscape
  | '\\' :: c :: rest => readFrom (some c) (draft.push (.literal c)) rest
  | c :: rest => readFrom (some c) (draft.push (.literal c)) rest
termination_by cs => cs.length

/-- The tokens of a glob. -/
def read (glob : String) : Except Fault (List Token) := readFrom none {} glob.toList

end LoaderGen.Glob
