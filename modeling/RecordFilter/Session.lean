import RecordFilter.Debug
import RecordFilter.Filter.Checking

/-!
# Sessions

A session keeps a synonym table, filters in named slots, and files, from one step to the next. A
check leaves the filter in its slot with the patterns it attempted compiled, and a clone takes over
what is compiled. A step that fails leaves the session as it was. Debug requests are answered
without the causes of failures.
-/

namespace RecordFilter

structure Session where
  synonyms : Synonyms
  slots : String → Option Filter
  files : Files

namespace Session

def start : Session := ⟨Synonyms.empty, fun _ => none, Files.empty⟩

instance : Inhabited Session := ⟨start⟩

/-- The session with a filter in a slot, whatever was there before. -/
def setSlot (s : Session) (slot : String) (f : Filter) : Session :=
  { s with slots := fun n => if n = slot then some f else s.slots n }

@[simp] theorem setSlot_self (s : Session) (slot : String) (f : Filter) :
    (s.setSlot slot f).slots slot = some f := by simp [setSlot]

theorem setSlot_of_ne {slot other : String} (h : other ≠ slot) (s : Session) (f : Filter) :
    (s.setSlot slot f).slots other = s.slots other := by simp [setSlot, h]

@[simp] theorem synonyms_setSlot (s : Session) (slot : String) (f : Filter) :
    (s.setSlot slot f).synonyms = s.synonyms := rfl

inductive Step where
  | table (document : String)
  | insert (term : String) (alternates : List String)
  | collect (entries : List (String × List String))
  | lookup (term : String)
  | dump
  | setFile (name : String) (state : FileState)
  | load (name : String)
  | loadOptional (name? : Option String)
  | loadOrEmpty (name? : Option String)
  | parse (slot filter : String)
  | clone (source slot : String)
  | equal (a b : String)
  | check (slot : String) (subject : Subject)
  | debug (synonymFile : Option String) (body : String)

inductive Answer where
  | done
  | size (n : Nat)
  | alternates (list : List String)
  | table (t : Synonyms)
  | parsed (nodes unparsed : Nat)
  | equal (outcome : Bool)
  | checked (outcome : Bool) (faults : List PatternFault)
  | response (r : Debug.Response)

inductive Failure where
  | synonyms (e : Synonyms.LoadError)
  | noSlot (name : String)

def withTable (s : Session) (t : Synonyms) : Session × Answer :=
  ({ s with synonyms := t }, .size t.size)

def slot (s : Session) (name : String) : Except Failure Filter :=
  match s.slots name with
  | some f => .ok f
  | none => .error (.noSlot name)

def parse (s : Session) (slot filter : String) : Session × Answer :=
  let (f, rest) := Filter.read filter
  (s.setSlot slot f, .parsed f.nodeCount (Filter.byteLength rest))

def check (s : Session) (slot : String) (f : Filter) (subject : Subject) : Session × Answer :=
  let c := f.check subject s.synonyms
  (s.setSlot slot c.after, .checked c.outcome c.faults)

def step (s : Session) : Step → Except Failure (Session × Answer)
  | .table document => ((Synonyms.ofDocument document).map s.withTable).mapError .synonyms
  | .insert term alternates => .ok (s.withTable (s.synonyms.insert term alternates))
  | .collect entries => .ok (s.withTable (Synonyms.ofList entries))
  | .lookup term => .ok (s, .alternates (s.synonyms.lookup term))
  | .dump => .ok (s, .table s.synonyms)
  | .setFile name state => .ok ({ s with files := s.files.set name state }, .done)
  | .load name => ((Synonyms.load s.files name).map s.withTable).mapError .synonyms
  | .loadOptional name? =>
    ((Synonyms.loadOptional s.files name?).map s.withTable).mapError .synonyms
  | .loadOrEmpty name? => .ok (s.withTable (Synonyms.loadOrEmpty s.files name?))
  | .parse slot filter => .ok (s.parse slot filter)
  | .clone source slot => do .ok (s.setSlot slot (← s.slot source), .done)
  | .equal a b => do .ok (s, .equal ((← s.slot a).same (← s.slot b)))
  | .check slot subject => do .ok (s.check slot (← s.slot slot) subject)
  | .debug synonymFile body => .ok (s, .response (Debug.respond s.files synonymFile body))

def run (s : Session) : List Step → Session × List (Except Failure Answer)
  | [] => (s, [])
  | t :: steps =>
    match s.step t with
    | .ok (s', a) => let (last, answers) := s'.run steps; (last, .ok a :: answers)
    | .error e => let (last, answers) := s.run steps; (last, .error e :: answers)

end Session

end RecordFilter
