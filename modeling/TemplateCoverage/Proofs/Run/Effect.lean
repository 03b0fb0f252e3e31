import TemplateCoverage.Proofs.Files.Tree
import TemplateCoverage.Run

/-!
# `TemplateCoverage.Proofs.Run.Effect`: what runs do to files

What a script answers and what it does to the files depends on the files only, not on the log or on
what it has been told. So an attempt is known by its successes: from which files it succeeds with
what, and which files it leaves. The theorems:

* `Script.effect_files`: the effect of a script on files is its effect on any machine with them;
* `effect_bind`, `effect_load`, `effect_save`: the effect of each kind of attempt;
* `Does.exists_run`, `Does.of_run`: successes of attempts are successful runs on machines;
* `does_bind_iff`, `does_mapM_cons_iff`: attempts in steps succeed step by step;
* `does_loadCatalog_iff`, `does_save_iff`: what loading and saving do;
* `does_mapM_iff_of_reads`, `does_mapM_iff_of_writes`: attempts for each item of a list;
* `StaysWithin.bind`, `staysWithin_mapM`: what relates the files before and after each step relates
  those before and after all steps, whether or not they succeed.
-/

set_option autoImplicit false

namespace TemplateCoverage

variable {α β ε ε' : Type}

/-! ### Scripts on files -/

/-- The answer to a request depends on the files only, and so do the files after it. The log and
what has been told to it may differ between the two machines. -/
theorem Machine.perform_congr (m m' : Machine) (same : m.files = m'.files) (request : Request) :
    (m.perform request).1 = (m'.perform request).1 ∧
      (m.perform request).2.files = (m'.perform request).2.files := by
  cases request with
  | read path => exact ⟨congrArg (·.read path) same, same⟩
  | write path text => simp only [perform, same, and_self]
  | startLog log =>
    simp only [perform, startLog]
    split
    · exact ⟨rfl, same⟩
    · rw [same]
      split <;> exact ⟨rfl, rfl⟩
  | record r =>
    refine ⟨rfl, ?_⟩
    simp only [perform]
    split <;> split <;> exact same
  | clock => exact ⟨rfl, same⟩

namespace Script

/-- The result of a script and the files after it. It is computed on a machine without a log, which
is no loss, as what is told to a log has no effect on files. -/
def effect : Script α → FileTree → α × FileTree
  | .done a, t => (a, t)
  | .ask request next, t =>
    let done := Machine.perform ⟨t, none, []⟩ request
    (next done.1).effect done.2.files

/-- The effect of a script on files is its effect on any machine with them. It is the bridge between
runs on machines, of which the results about operations speak, and effects, of which most lemmas do.
-/
theorem effect_files (s : Script α) (m : Machine) :
    s.effect m.files = ((s.run m).1, (s.run m).2.files) := by
  induction s generalizing m with
  | done a => rfl
  | ask request next ih =>
    -- Each request is answered alike on the machine and on the one without a log, so the induction
    -- is over the machines too.
    have same : (Machine.perform ⟨m.files, none, []⟩ request).1 = (m.perform request).1 ∧
        (Machine.perform ⟨m.files, none, []⟩ request).2.files = (m.perform request).2.files :=
      Machine.perform_congr ⟨m.files, none, []⟩ m rfl request
    rw [effect, run, ← ih, ← same.1, ← same.2]

/-- Two scripts one after the other have the effect of the second one on what the first one leaves,
by induction on the requests of the first. -/
theorem effect_bind (s : Script α) (f : α → Script β) (t : FileTree) :
    (s.bind f).effect t = (f (s.effect t).1).effect (s.effect t).2 := by
  induction s generalizing t with
  | done a => rfl
  | ask request next ih => exact ih _ _

/-- Telling records has no effect on files, by induction on the records, none of which is put among
the files. -/
theorem effect_records (rs : List Record) (t : FileTree) : (records rs).effect t = ((), t) := by
  induction rs with
  | nil => rfl
  | cons r rs ih => exact ih

end Script

namespace Run

/-! ### Attempts on files -/

/-- Two steps have the effect of the first one and, unless it fails, of the second one after it.
Files that a failed step has changed stay changed. -/
theorem effect_bind (a : Attempt ε α) (f : α → Attempt ε β) (t : FileTree) :
    (a >>= f).run.effect t =
      match a.run.effect t with
      | (.ok x, t₁) => (f x).run.effect t₁
      | (.error e, t₁) => (.error e, t₁) := by
  have run : (a >>= f).run = a.run.bind fun result =>
      match result with
      | .ok x => (f x).run
      | .error e => .done (.error e) :=
    congrArg a.run.bind (funext fun result => by cases result <;> rfl)
  rw [run, Script.effect_bind]
  cases a.run.effect t with
  | mk answer files => cases answer <;> rfl

/-- What a run tells to the log leaves the files alone. So a run has the effect of its body,
whatever happens to the record of its start. -/
theorem effect_logged {operation : Operation} (body : Attempt RunError α) (t : FileTree) :
    (logged operation body).run.effect t = body.run.effect t := by
  have logged := (logged operation body).run.effect_files ⟨t, none, []⟩
  -- Both sides are read off machines: the body starts on one that has been told of the start.
  have plain := body.run.effect_files (started ⟨t, none, []⟩ operation)
  rw [started, files_tell] at plain
  rw [run_logged] at logged
  dsimp only at logged
  rw [files_tell] at logged
  exact logged.trans plain.symm

/-- A note succeeds and leaves the files alone, also where no log has been started. -/
theorem effect_note (r : Record) (t : FileTree) : (note r).run.effect t = (.ok (), t) := rfl

/-- Notes succeed and leave the files alone, however many there are, so that they can be passed over
in every run. -/
theorem effect_notes (rs : List Record) (t : FileTree) :
    (notes rs).run.effect t = (.ok (), t) := by
  have run : (notes rs).run = (Script.records rs).bind fun u => .done (.ok u) := rfl
  rw [run, Script.effect_bind, Script.effect_records]
  rfl

/-- An attempt at a document has its own effect. Only its error is told differently, as one of the
run. -/
theorem effect_document (d : Attempt DocumentError α) (t : FileTree) :
    (document d).run.effect t =
      ((d.run.effect t).1.mapError RunError.document, (d.run.effect t).2) := by
  have run : (document d).run = d.run.bind fun result =>
      .done (result.mapError RunError.document) := rfl
  rw [run, Script.effect_bind]
  rfl

/-- Loading gives what the reader's answer is decoded to and changes no file, whether or not the
document can be read and understood. -/
theorem effect_load {kind : DocumentKind} {decode : String → Except Defect α}
    {sizes : α → Nat × Nat} (path : String) (t : FileTree) :
    (load kind decode sizes path).effect t = (decoded path decode (t.read path), t) := by
  have effect := (load kind decode sizes path).effect_files ⟨t, none, []⟩
  rwa [run_load, files_tell] at effect

/-- Saving writes the text and says why it could not be written if it could not. What the write left
behind before it failed stays. -/
theorem effect_save {kind : DocumentKind} {c : Catalog} (path text : String) (t : FileTree) :
    (save kind path text c).effect t =
      (saved path (t.write path text).1, (t.write path text).2) := by
  have effect := (save kind path text c).effect_files ⟨t, none, []⟩
  rwa [run_save, files_tell] at effect

/-! ### Attempts that succeed -/

/-- From the files `t` an attempt succeeds with `x` and leaves the files `t'`. Attempts are
deterministic, so that both are determined by the attempt and by `t`. -/
def Does (a : Attempt ε α) (t : FileTree) (x : α) (t' : FileTree) : Prop :=
  a.run.effect t = (.ok x, t')

variable {a : Attempt ε α} {x : α} {t t' : FileTree}

/-- A success is one on every machine with the files. Only the machine after the run depends on the
log. -/
theorem Does.exists_run (does : Does a t x t') {m : Machine} (files : m.files = t) :
    ∃ m', a.run.run m = (.ok x, m') ∧ m'.files = t' := by
  have effect := a.run.effect_files m
  rw [files, does] at effect
  have answer : (a.run.run m).1 = .ok x := (congrArg Prod.fst effect).symm
  exact ⟨(a.run.run m).2, Prod.ext answer rfl, (congrArg Prod.snd effect).symm⟩

/-- A successful run on a machine is a success from the files of that machine. -/
theorem Does.of_run {m m' : Machine} (h : a.run.run m = (.ok x, m')) :
    Does a m.files x m'.files := by
  rw [Does, Script.effect_files, h]

/-- There is a successful run on a machine if and only if there is a success from its files, so that
results about files carry over to machines. -/
theorem exists_run_iff {m : Machine} :
    (∃ x m', a.run.run m = (.ok x, m')) ↔ ∃ x t', Does a m.files x t' := by
  refine exists_congr fun x => ⟨fun ⟨m', run⟩ => ⟨m'.files, Does.of_run run⟩, fun ⟨t', does⟩ => ?_⟩
  -- The machine itself is the one with the files.
  obtain ⟨m', run, _⟩ := does.exists_run rfl
  exact ⟨m', run⟩

/-- An attempt at nothing succeeds with its value and changes no file; it is the end of every run.
-/
theorem does_pure_iff {y : α} : Does (pure x : Attempt ε α) t y t' ↔ y = x ∧ t' = t := by
  show ((.ok x : Except ε α), t) = (.ok y, t') ↔ _
  simp only [Prod.mk.injEq, Except.ok.injEq]
  exact ⟨fun h => ⟨h.1.symm, h.2.symm⟩, fun h => ⟨h.1.symm, h.2.symm⟩⟩

/-- An attempt that fails at once does not succeed, which closes the branches in which a run gives
up. -/
theorem does_throw_iff {e : ε} : Does (throw e : Attempt ε α) t x t' ↔ False := by
  refine ⟨fun h => ?_, False.elim⟩
  have failed : (.error e : Except ε α) = .ok x := congrArg Prod.fst h
  contradiction

/-- Two steps succeed if and only if the first one does and the second one does after it. All that
is said about runs with several steps is put together from this. -/
theorem does_bind_iff {f : α → Attempt ε β} {y : β} : Does (a >>= f) t y t' ↔
    ∃ x t₁, Does a t x t₁ ∧ Does (f x) t₁ y t' := by
  unfold Does
  rw [effect_bind]
  cases result : a.run.effect t with
  | mk answer files =>
    cases answer with
    -- After a failure the second step is not reached.
    | error e => simp
    | ok x =>
      constructor
      · exact fun second => ⟨x, files, rfl, second⟩
      · rintro ⟨_, _, eq, second⟩
        cases eq
        exact second

/-- An attempt for every item of a list succeeds item by item: the later items start from the files
that the earlier ones left. -/
theorem does_mapM_cons_iff {f : α → Attempt ε β} {i : α} {is : List α} {ys : List β} :
    Does ((i :: is).mapM f) t ys t' ↔
      ∃ y t₁ rest, Does (f i) t y t₁ ∧ Does (is.mapM f) t₁ rest t' ∧ ys = y :: rest := by
  rw [List.mapM_cons, does_bind_iff]
  constructor
  · rintro ⟨y, t₁, first, others⟩
    -- After the other items only their results are put together.
    obtain ⟨rest, t₂, others, last⟩ := does_bind_iff.1 others
    obtain ⟨rfl, rfl⟩ := does_pure_iff.1 last
    exact ⟨y, t₁, rest, first, others, rfl⟩
  · rintro ⟨y, t₁, rest, first, others, rfl⟩
    exact ⟨y, t₁, first, does_bind_iff.2 ⟨rest, t', others, does_pure_iff.2 ⟨rfl, rfl⟩⟩⟩

/-- A run succeeds as its body does: what is told to the log decides nothing. -/
theorem does_logged_iff {operation : Operation} {body : Attempt RunError α} :
    Does (logged operation body) t x t' ↔ Does body t x t' := by
  unfold Does
  rw [effect_logged]

/-- A note always succeeds and leaves the files alone, whatever it says. -/
theorem does_note_iff {r : Record} {y : Unit} : Does (note r) t y t' ↔ t' = t := by
  unfold Does
  rw [effect_note]
  simp [eq_comm]

/-- Notes always succeed and leave the files alone, by induction on them. -/
theorem does_notes_iff {rs : List Record} {y : Unit} : Does (notes rs) t y t' ↔ t' = t := by
  unfold Does
  rw [effect_notes]
  simp [eq_comm]

/-- An attempt at a document succeeds in a run as it does alone. -/
theorem does_document_iff {d : Attempt DocumentError α} :
    Does (document d) t x t' ↔ Does d t x t' := by
  unfold Does
  rw [effect_document, Prod.ext_iff, Prod.ext_iff]
  exact and_congr_left' mapError_eq_ok_iff

/-! ### Documents -/

/-- A file holds the text of a document. A document that was decoded from several files is not
meant, and neither is one that is only in memory. -/
def Holds (decode : String → Except Defect α) (t : FileTree) (path : String) (d : α) :
    Prop :=
  ∃ text, t.read path = .ok text ∧ decode text = .ok d

/-- A file holds a catalog: it can be read, and its text is one that the catalog reader accepts. -/
abbrev HoldsCatalog (t : FileTree) (path : String) (c : Catalog) : Prop :=
  Holds Document.readCatalog t path c

/-- A file holds a taxonomy: it can be read, and its text is one that the taxonomy reader accepts.
-/
abbrev HoldsTaxonomy (t : FileTree) (path : String) (taxonomy : Taxonomy) : Prop :=
  Holds Document.readTaxonomy t path taxonomy

variable {decode : String → Except Defect α} {path : String} {d : α}

/-- A file holds one document at most, as reading and decoding are functions. -/
theorem Holds.unique {other : α} (holds : Holds decode t path d)
    (holds' : Holds decode t path other) : d = other := by
  obtain ⟨text, read, decoded⟩ := holds
  obtain ⟨text', read', decoded'⟩ := holds'
  obtain rfl : text = text' := by simpa [read] using read'
  simpa [decoded] using decoded'

/-- A document that can be read from some files can be read from others if the text is kept. Only
this file has to be kept, hence the hypothesis about one path. -/
theorem Holds.of_read_imp {t' : FileTree} (holds : Holds decode t path d)
    (kept : ∀ text, t.read path = .ok text → t'.read path = .ok text) :
    Holds decode t' path d := by
  obtain ⟨text, read, decoded⟩ := holds
  exact ⟨text, kept text read, decoded⟩

/-- A document is decoded if the file could be read and its text is understood. -/
theorem decoded_eq_ok_iff {answer : Except Fault String} :
    decoded path decode answer = .ok d ↔
      ∃ text, answer = .ok text ∧ decode text = .ok d := by
  cases answer with
  | error fault => simp [decoded]
  | ok text =>
    simp only [decoded, Except.ok.injEq, exists_eq_left']
    split <;> simp_all

/-- Loading succeeds with the document that the file holds, if it holds one, and changes no file.
The numbers that are told about it decide nothing. -/
theorem does_load_iff {kind : DocumentKind} {sizes : α → Nat × Nat} :
    Does (ExceptT.mk (load kind decode sizes path)) t d t' ↔
      Holds decode t path d ∧ t' = t := by
  unfold Does
  rw [ExceptT.run_mk, effect_load, Prod.mk.injEq, decoded_eq_ok_iff]
  exact and_congr_right fun _ => eq_comm

/-- Loading the taxonomy succeeds with the one that the file holds and changes no file. -/
theorem does_loadTaxonomy_iff {taxonomy : Taxonomy} :
    Does (document (loadTaxonomy path)) t taxonomy t' ↔
      HoldsTaxonomy t path taxonomy ∧ t' = t := by
  rw [does_document_iff]
  exact does_load_iff

/-- Loading a catalog succeeds with the one that the file holds and changes no file. -/
theorem does_loadCatalog_iff {c : Catalog} :
    Does (document (loadCatalog path)) t c t' ↔ HoldsCatalog t path c ∧ t' = t := by
  rw [does_document_iff]
  exact does_load_iff

/-- Saving succeeds if the text is written, and leaves the files that the write leaves. -/
theorem does_save_iff {kind : DocumentKind} {text : String} {c : Catalog} {u : Unit} :
    Does (ExceptT.mk (save kind path text c)) t u t' ↔ t.write path text = (.ok (), t') := by
  unfold Does
  rw [ExceptT.run_mk, effect_save]
  cases t.write path text with
  | mk answer files => cases answer <;> simp [saved]

/-! ### One attempt for each item of a list -/

/-- Attempts that change no file succeed together if and only if each of them does from the files at
the start. `key` gives the item back that an attempt was made for, so that results stand for items.
-/
theorem does_mapM_iff_of_reads {f : α → Attempt ε β} {key : β → α}
    (reads : ∀ i t y t', Does (f i) t y t' → t' = t ∧ key y = i) {is : List α} {ys : List β} :
    Does (is.mapM f) t ys t' ↔ t' = t ∧ ys.map key = is ∧ ∀ y ∈ ys, Does (f (key y)) t y t := by
  induction is generalizing t ys with
  | nil =>
    rw [List.mapM_nil, does_pure_iff, List.map_eq_nil_iff]
    constructor
    · rintro ⟨rfl, same⟩
      exact ⟨same, rfl, by simp⟩
    · exact fun h => ⟨h.2.1, h.1⟩
  | cons i is ih =>
    rw [does_mapM_cons_iff]
    constructor
    · rintro ⟨y, t₁, rest, first, others, rfl⟩
      -- The others start from the same files as the first, which changes none.
      obtain ⟨rfl, rfl⟩ := reads _ _ _ _ first
      obtain ⟨rfl, rfl, each⟩ := ih.1 others
      exact ⟨rfl, rfl, List.forall_mem_cons.2 ⟨first, each⟩⟩
    · rintro ⟨rfl, keys, each⟩
      obtain ⟨y, rest, rfl, rfl, rfl⟩ := List.map_eq_cons_iff.1 keys
      obtain ⟨first, each⟩ := List.forall_mem_cons.1 each
      exact ⟨y, t', rest, first, ih.2 ⟨rfl, rfl, each⟩, rfl⟩

/-- Attempts that write documents succeed together if and only if all of the documents are written
one after the other. The results are determined by the items, as nothing is read. -/
theorem does_mapM_iff_of_writes {f : α → Attempt ε β} {documents : α → List (String × String)}
    {result : α → β}
    (writes : ∀ i t y t', Does (f i) t y t' ↔ FileTree.Writes (documents i) t t' ∧ y = result i)
    {is : List α} {ys : List β} :
    Does (is.mapM f) t ys t' ↔
      FileTree.Writes (is.flatMap documents) t t' ∧ ys = is.map result := by
  induction is generalizing t ys with
  | nil =>
    rw [List.mapM_nil, does_pure_iff, and_comm]
    rfl
  | cons i is ih =>
    rw [does_mapM_cons_iff, List.flatMap_cons, FileTree.writes_append_iff]
    constructor
    · rintro ⟨y, t₁, rest, first, others, rfl⟩
      -- Unlike with reads, the others start from the files that the first one left.
      obtain ⟨mine, rfl⟩ := (writes _ _ _ _).1 first
      obtain ⟨written, rfl⟩ := ih.1 others
      exact ⟨⟨t₁, mine, written⟩, rfl⟩
    · rintro ⟨⟨t₁, mine, written⟩, rfl⟩
      exact ⟨result i, t₁, is.map result, (writes _ _ _ _).2 ⟨mine, rfl⟩, ih.2 ⟨written, rfl⟩, rfl⟩

/-! ### Files before and after an attempt -/

/-- The files before and after an attempt are related, whether or not it succeeds. It says what a
failed attempt may have done, of which `Does` says nothing. -/
def StaysWithin (R : FileTree → FileTree → Prop) (a : Attempt ε α) : Prop :=
  ∀ t, R t (a.run.effect t).2

/-- An attempt changes no file, whether or not it succeeds. It is the smallest case of staying
within a relation. -/
abbrev Reads (a : Attempt ε α) : Prop := StaysWithin Eq a

/-- Equality of files is reflexive; the steps below ask for a reflexive relation by class. -/
instance : Std.Refl (Eq : FileTree → FileTree → Prop) := ⟨Eq.refl⟩

section Steps

variable {R : FileTree → FileTree → Prop} [Std.Refl R]

/-- An attempt at nothing stays within every reflexive relation, as the files are those of the
start. -/
theorem staysWithin_pure (x : α) : StaysWithin R (pure x : Attempt ε α) := fun t => Std.Refl.refl t

/-- So does an attempt that fails at once, since failing undoes nothing and writes nothing. -/
theorem staysWithin_throw (e : ε) : StaysWithin R (throw e : Attempt ε α) := fun t =>
  Std.Refl.refl t

/-- So does a note, as the log is no file of the tree. -/
theorem staysWithin_note (r : Record) : StaysWithin R (note r) := fun t => Std.Refl.refl t

/-- So do notes, however many there are, none of which touches a file. -/
theorem staysWithin_notes (rs : List Record) : StaysWithin R (notes rs) := by
  intro t
  rw [effect_notes]
  exact Std.Refl.refl t

/-- So does loading a document, whether or not the file holds one: reading never changes files. -/
theorem staysWithin_load {kind : DocumentKind} {decode : String → Except Defect α}
    {sizes : α → Nat × Nat} (path : String) :
    StaysWithin R (document (ExceptT.mk (load kind decode sizes path))) := by
  intro t
  rw [effect_document, ExceptT.run_mk, effect_load]
  exact Std.Refl.refl t

/-- So does loading the taxonomy, which is read as any document is. -/
theorem staysWithin_loadTaxonomy (path : String) : StaysWithin R (document (loadTaxonomy path)) :=
  staysWithin_load path

/-- So does loading a catalog, for a merge also that of the candidates. -/
theorem staysWithin_loadCatalog (path : String) : StaysWithin R (document (loadCatalog path)) :=
  staysWithin_load path

/-- After a step that only reads, the next one starts from the same files and from what was read. It
says more than `StaysWithin.bind`: the second step may use what the first one found there. -/
theorem Reads.bind_of_does {a : Attempt ε α} {f : α → Attempt ε β} (reads : Reads a)
    (next : ∀ x, Does a t x t → R t ((f x).run.effect t).2) : R t ((a >>= f).run.effect t).2 := by
  rw [effect_bind]
  have same : t = (a.run.effect t).2 := reads t
  cases result : a.run.effect t with
  | mk answer t₁ =>
    rw [result] at same
    obtain rfl : t = t₁ := same
    cases answer with
    | error e => exact Std.Refl.refl t
    | ok x => exact next x result

variable [Trans R R R]

omit [Std.Refl R] in
/-- Two steps stay within a transitive relation if each of them does. The second one may not be
reached, and then the first one alone decides. -/
theorem StaysWithin.bind {a : Attempt ε α} {f : α → Attempt ε β} (first : StaysWithin R a)
    (second : ∀ x, StaysWithin R (f x)) : StaysWithin R (a >>= f) := by
  intro t
  rw [effect_bind]
  have moved := first t
  cases result : a.run.effect t with
  | mk answer t₁ =>
    rw [result] at moved
    cases answer with
    | error e => exact moved
    | ok x => exact Trans.trans moved (second x t₁)

/-- Steps for the items of a list stay within a relation if each of them does. The last ones may not
be reached, which is why the relation must be reflexive. -/
theorem staysWithin_mapM {f : α → Attempt ε β} {is : List α}
    (each : ∀ i ∈ is, StaysWithin R (f i)) : StaysWithin R (is.mapM f) := by
  induction is with
  | nil => exact staysWithin_pure []
  | cons i is ih =>
    obtain ⟨first, others⟩ := List.forall_mem_cons.1 each
    rw [List.mapM_cons]
    exact first.bind fun y => (ih others).bind fun ys => staysWithin_pure (y :: ys)

end Steps

section

variable {R : FileTree → FileTree → Prop}

/-- A run stays within whatever its body stays within, as the records around it leave the files
alone. -/
theorem staysWithin_logged {operation : Operation} {body : Attempt RunError α}
    (within : StaysWithin R body) : StaysWithin R (logged operation body) := by
  intro t
  rw [effect_logged]
  exact within t

/-- Saving a document is writing its text, so that it stays within what the write stays within. The
write may make directories and still fail. -/
theorem staysWithin_save {kind : DocumentKind} {path text : String} {c : Catalog}
    (write : ∀ t, R t (t.write path text).2) :
    StaysWithin R (document (ExceptT.mk (save kind path text c))) := by
  intro t
  rw [effect_document, ExceptT.run_mk, effect_save]
  exact write t

end

end Run

end TemplateCoverage
