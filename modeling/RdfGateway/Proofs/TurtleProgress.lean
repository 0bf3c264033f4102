import RdfGateway.Turtle.Reader

/-!
# What has been stated stays stated

A reader of Turtle adds to what has been stated and takes nothing back, whether it comes to its end
or fails (`Keeps`). So what the first items of a document state is what the reading of the whole
document begins with (`stated_after`), whatever follows them.

Proof. A part of a reader keeps what has been stated when its own parts do (`Keeps.bind`); the only
part that states something adds it in front. The readers of objects and lists call each other with
less fuel, so they are gone through together by induction on it (`keeps_lists`).
-/

namespace RdfGateway.Turtle

open RdfGateway.Text

/-- Nothing is taken back. -/
def Keeps {α : Type} (reader : Reader α) : Prop :=
  ∀ state, state.stated <:+ (reader.run.run state).2.stated

namespace Reader

variable {α β : Type} {reader : Reader α} {next : α → Reader β}

theorem run_bind (state : State) : (reader >>= next).run.run state =
    match reader.run.run state with
    | (.ok found, later) => (next found).run.run later
    | (.error failure, later) => (.error failure, later) := by
  change (ExceptT.bindCont next (reader.run.run state).1).run (reader.run.run state).2 = _
  rcases reader.run.run state with ⟨failure | found, later⟩ <;> rfl

end Reader

namespace Keeps

open Reader

variable {α β : Type} {reader other : Reader α} {next : α → Reader β}

theorem pure (found : α) : Keeps (Pure.pure found : Reader α) := fun _ => List.suffix_rfl

theorem fail : Keeps (fail : Reader α) := fun _ => List.suffix_rfl

theorem get : Keeps (MonadState.get : Reader State) := fun _ => List.suffix_rfl

theorem modify {change : State → State} (h : ∀ state, state.stated <:+ (change state).stated) :
    Keeps (modify change : Reader Unit) := h

theorem bind (hreader : Keeps reader) (hnext : ∀ found, Keeps (next found)) :
    Keeps (reader >>= next) := by
  intro state
  have hfirst := hreader state
  rw [run_bind]
  rcases hrun : reader.run.run state with ⟨failure | found, later⟩
  · rwa [hrun] at hfirst
  · rw [hrun] at hfirst
    exact hfirst.trans (hnext found later)

theorem discard (hreader : Keeps reader) : Keeps (discard reader) := by
  intro state
  have hfirst := hreader state
  change _ <:+ (((fun _ => ()) <$> reader).run.run state).2.stated
  rw [ExceptT.run_map, StateT.run_map]
  exact hfirst

theorem ite {condition : Prop} [Decidable condition] (hreader : Keeps reader)
    (hother : Keeps other) : Keeps (if condition then reader else other) := by
  split
  · exact hreader
  · exact hother

end Keeps

/-! ## Tokens -/

theorem keeps_rest : Keeps Reader.rest := Keeps.get.bind fun _ => .pure _

theorem keeps_moveTo (document : Document) : Keeps (Reader.moveTo document) :=
  .modify fun _ => List.suffix_rfl

theorem keeps_token {α : Type} (read : Document → Option (α × Document)) :
    Keeps (Reader.token read) := by
  refine keeps_rest.bind fun document => ?_
  split
  · exact (keeps_moveTo _).bind fun _ => .pure _
  · exact .fail

theorem keeps_accept (text : String) : Keeps (Reader.accept text) := by
  refine keeps_rest.bind fun document => ?_
  split
  · exact (keeps_moveTo _).bind fun _ => .pure _
  · exact .pure _

theorem keeps_sees (text : String) : Keeps (Reader.sees text) := keeps_rest.bind fun _ => .pure _

theorem keeps_expect (text : String) : Keeps (Reader.expect text) :=
  (keeps_accept text).bind fun _ => .ite (.pure _) .fail

theorem keeps_state (subject : Place Resource) (predicate : String) (object : Place Node) :
    Keeps (Reader.state subject predicate object) :=
  .modify fun _ => List.suffix_cons _ _

theorem keeps_skip : Keeps skip := keeps_rest.bind fun _ => keeps_moveTo _

theorem keeps_skipSemicolons : Keeps skipSemicolons := keeps_rest.bind fun _ => keeps_moveTo _

theorem keeps_freshNode : Keeps freshNode := by
  refine Keeps.get.bind fun state => ?_
  exact Keeps.bind (.modify fun _ => List.suffix_rfl) fun _ => .pure _

theorem keeps_iriReference : Keeps iriReference := by
  refine (keeps_expect _).bind fun _ => (keeps_token _).bind fun text => ?_
  refine Keeps.get.bind fun state => ?_
  split
  · exact .pure _
  · exact .fail

theorem keeps_prefixMark : Keeps prefixMark :=
  (keeps_token _).bind fun _ => (keeps_expect _).bind fun _ => .pure _

theorem keeps_iri : Keeps iri := by
  refine (keeps_sees _).bind fun _ => .ite (keeps_iriReference.bind fun _ => .pure _) ?_
  refine keeps_prefixMark.bind fun label => Keeps.get.bind fun state => ?_
  split
  · exact (keeps_token _).bind fun _ => .pure _
  · exact .fail

theorem keeps_blankNode : Keeps blankNode :=
  (keeps_expect _).bind fun _ => (keeps_token _).bind fun _ => .pure _

theorem keeps_literal : Keeps literal := by
  refine (keeps_token _).bind fun _ => (keeps_token _).bind fun _ => keeps_skip.bind fun _ => ?_
  refine (keeps_accept _).bind fun _ => .ite ((keeps_token _).bind fun _ => .pure _) ?_
  refine (keeps_sees _).bind fun _ => .ite ?_ (.pure _)
  exact (keeps_expect _).bind fun _ => keeps_skip.bind fun _ => keeps_iri.bind fun _ => .pure _

theorem keeps_simpleNode : Keeps simpleNode := by
  refine keeps_rest.bind fun document => ?_
  split
  · exact .fail
  · exact .fail
  · refine .ite keeps_literal (.ite (keeps_token _) ((keeps_sees _).bind fun _ => ?_))
    refine .ite (keeps_blankNode.bind fun _ => .pure _) ?_
    refine .ite ((keeps_expect _).bind fun _ => .pure _) ?_
    exact .ite ((keeps_expect _).bind fun _ => .pure _) (keeps_iri.bind fun _ => .pure _)

theorem keeps_predicate : Keeps predicate := by
  refine keeps_rest.bind fun document => ?_
  split
  · split
    · exact .ite keeps_iri ((keeps_moveTo _).bind fun _ => .pure _)
    · exact .fail
    · exact .fail
  · exact keeps_iri

theorem keeps_emptyBrackets : Keeps emptyBrackets :=
  (keeps_expect _).bind fun _ => keeps_skip.bind fun _ => (keeps_expect _).bind fun _ =>
    keeps_freshNode

/-! ## Statements -/

/-- The readers that call each other keep what has been stated, with this fuel. -/
structure ListsKeep (fuel : Nat) : Prop where
  object (depth : Nat) : Keeps (object fuel depth)
  collection (depth : Nat) : Keeps (collection fuel depth)
  items (depth : Nat) (last : Resource) : Keeps (items fuel depth last)
  propertyList (depth : Nat) : Keeps (propertyList fuel depth)
  predicateObjectList (depth : Nat) (subject : Place Resource) :
    Keeps (predicateObjectList fuel depth subject)
  objectList (depth : Nat) (subject : Place Resource) (predicate : String) :
    Keeps (objectList fuel depth subject predicate)
  quotedStatement (depth : Nat) : Keeps (quotedStatement fuel depth)

namespace ListsKeep

variable {fuel : Nat} (h : ListsKeep fuel)
include h

theorem object_succ (depth : Nat) : Keeps (Turtle.object (fuel + 1) depth) := by
  rw [Turtle.object]
  refine keeps_rest.bind fun document => (keeps_sees _).bind fun _ => .ite ?_ ?_
  · exact (h.quotedStatement depth).bind fun _ => .pure _
  · refine (keeps_sees _).bind fun _ => .ite ((h.collection depth).bind fun _ => .pure _) ?_
    refine .ite (keeps_emptyBrackets.bind fun _ => .pure _) ?_
    refine (keeps_sees _).bind fun _ => .ite ((h.propertyList depth).bind fun _ => .pure _) ?_
    exact keeps_simpleNode.bind fun _ => .pure _

theorem collection_succ (depth : Nat) : Keeps (Turtle.collection (fuel + 1) depth) := by
  cases depth with
  | zero =>
    rw [Turtle.collection]
    · exact .fail
    · exact Nat.succ_ne_zero fuel
  | succ depth =>
    rw [Turtle.collection]
    refine (keeps_expect _).bind fun _ => keeps_skip.bind fun _ => ?_
    refine (keeps_accept _).bind fun _ => .ite (.pure _) (keeps_freshNode.bind fun node => ?_)
    refine (h.object depth).bind fun item => (keeps_state _ _ _).bind fun _ => ?_
    exact (h.items depth node).bind fun _ => .pure _

theorem items_succ (depth : Nat) (last : Resource) :
    Keeps (Turtle.items (fuel + 1) depth last) := by
  rw [Turtle.items]
  refine keeps_skip.bind fun _ => (keeps_accept _).bind fun _ => .ite (keeps_state _ _ _) ?_
  refine keeps_freshNode.bind fun node => (keeps_state _ _ _).bind fun _ => ?_
  exact (h.object depth).bind fun item => (keeps_state _ _ _).bind fun _ => h.items depth node

theorem propertyList_succ (depth : Nat) : Keeps (Turtle.propertyList (fuel + 1) depth) := by
  cases depth with
  | zero =>
    rw [Turtle.propertyList]
    · exact .fail
    · exact Nat.succ_ne_zero fuel
  | succ depth =>
    rw [Turtle.propertyList]
    refine (keeps_expect _).bind fun _ => keeps_skip.bind fun _ => ?_
    refine keeps_freshNode.bind fun node => (h.predicateObjectList depth _).bind fun _ => ?_
    exact (keeps_expect _).bind fun _ => .pure _

theorem predicateObjectList_succ (depth : Nat) (subject : Place Resource) :
    Keeps (Turtle.predicateObjectList (fuel + 1) depth subject) := by
  rw [Turtle.predicateObjectList]
  refine keeps_predicate.bind fun predicate => keeps_skip.bind fun _ => ?_
  refine (h.objectList depth subject predicate).bind fun _ => (keeps_accept _).bind fun _ => ?_
  refine .ite (keeps_skipSemicolons.bind fun _ => keeps_rest.bind fun document => ?_) (.pure _)
  split
  · exact .pure _
  · exact .ite (.pure _) (h.predicateObjectList depth subject)

theorem objectList_succ (depth : Nat) (subject : Place Resource) (predicate : String) :
    Keeps (Turtle.objectList (fuel + 1) depth subject predicate) := by
  rw [Turtle.objectList]
  refine (h.object depth).bind fun object => (keeps_state _ _ _).bind fun _ => ?_
  refine keeps_skip.bind fun _ => (keeps_accept _).bind fun _ => ?_
  have hmore : Keeps (Reader.accept "," >>= fun more =>
      if more then skip >>= fun _ => Turtle.objectList fuel depth subject predicate
      else pure ()) :=
    (keeps_accept _).bind fun _ =>
      .ite (keeps_skip.bind fun _ => h.objectList depth subject predicate) (.pure _)
  refine .ite (keeps_skip.bind fun _ => ?_) hmore
  exact (h.predicateObjectList depth _).bind fun _ => Keeps.fail.bind fun _ => hmore

theorem quotedStatement_succ (depth : Nat) : Keeps (Turtle.quotedStatement (fuel + 1) depth) := by
  cases depth with
  | zero =>
    rw [Turtle.quotedStatement]
    · exact .fail
    · exact Nat.succ_ne_zero fuel
  | succ depth =>
    rw [Turtle.quotedStatement]
    have hend : ∀ found : Unit, Keeps (skip >>= fun _ => Reader.expect ">>") := fun _ =>
      keeps_skip.bind fun _ => keeps_expect _
    refine (keeps_expect _).bind fun _ => keeps_skip.bind fun _ => (keeps_sees _).bind fun _ => ?_
    refine .ite ((h.quotedStatement depth).bind fun _ => ?_) ((keeps_sees _).bind fun _ =>
      .ite (keeps_emptyBrackets.discard.bind fun _ => ?_) ((keeps_sees _).bind fun _ =>
        .ite (keeps_blankNode.discard.bind fun _ => ?_) (keeps_iri.discard.bind fun _ => ?_)))
    -- the same follows every subject
    all_goals
      refine keeps_skip.bind fun _ => keeps_predicate.discard.bind fun _ => ?_
      refine keeps_skip.bind fun _ => (keeps_sees _).bind fun _ => ?_
      refine .ite ((h.quotedStatement depth).bind hend) ((keeps_sees _).bind fun _ => ?_)
      exact .ite (keeps_emptyBrackets.discard.bind hend) (keeps_simpleNode.discard.bind hend)

end ListsKeep

/-- **The readers that call each other take nothing back**, whatever fuel they have. -/
theorem keeps_lists (fuel : Nat) : ListsKeep fuel := by
  induction fuel with
  | zero =>
    constructor <;> intros
    · rw [object]
      exact .fail
    · rw [collection]
      exact .fail
    · rw [items]
      exact .fail
    · rw [propertyList]
      exact .fail
    · rw [predicateObjectList]
      exact .fail
    · rw [objectList]
      exact .fail
    · rw [quotedStatement]
      exact .fail
  | succ fuel ih =>
    exact ⟨ih.object_succ, ih.collection_succ, ih.items_succ, ih.propertyList_succ,
      ih.predicateObjectList_succ, ih.objectList_succ, ih.quotedStatement_succ⟩

theorem keeps_subject (fuel : Nat) : Keeps (subject fuel) := by
  refine (keeps_sees _).bind fun _ => .ite ?_ ?_
  · exact ((keeps_lists fuel).quotedStatement _).bind fun _ => .pure _
  · refine (keeps_sees _).bind fun _ => .ite (((keeps_lists fuel).collection _).bind fun _ => .pure _) ?_
    refine (keeps_sees _).bind fun _ => .ite (keeps_emptyBrackets.bind fun _ => .pure _) ?_
    refine (keeps_sees _).bind fun _ => .ite (keeps_blankNode.bind fun _ => .pure _) ?_
    exact keeps_iri.bind fun _ => .pure _

theorem keeps_statements (fuel : Nat) : Keeps (statements fuel) := by
  have hlist (subject : Place Resource) := (keeps_lists fuel).predicateObjectList maxDepth subject
  have hdot : ∀ found : Unit, Keeps (Reader.expect ".") := fun _ => keeps_expect _
  refine keeps_rest.bind fun document => .ite ?_ ?_
  · refine ((keeps_lists fuel).propertyList _).bind fun node => keeps_skip.bind fun _ => ?_
    refine (keeps_sees _).bind fun _ => .ite (hdot ()) ((hlist _).bind hdot)
  · refine (keeps_subject fuel).bind fun subject => keeps_skip.bind fun _ => ?_
    exact (hlist subject).bind hdot

theorem keeps_declarePrefix : Keeps declarePrefix := by
  refine keeps_skip.bind fun _ => keeps_prefixMark.bind fun label => keeps_skip.bind fun _ => ?_
  exact keeps_iriReference.bind fun reference => .modify fun _ => List.suffix_rfl

theorem keeps_declareBase : Keeps declareBase :=
  keeps_skip.bind fun _ => keeps_iriReference.bind fun _ => .modify fun _ => List.suffix_rfl

theorem keeps_item (fuel : Nat) : Keeps (item fuel) := by
  refine keeps_rest.bind fun document => (keeps_accept _).bind fun _ => .ite ?_ ?_
  · exact keeps_declarePrefix.bind fun _ => keeps_skip.bind fun _ => keeps_expect _
  · refine (keeps_accept _).bind fun _ => .ite ?_ ?_
    · exact keeps_declareBase.bind fun _ => keeps_skip.bind fun _ => keeps_expect _
    · split
      · exact (keeps_moveTo _).bind fun _ => keeps_declareBase
      · exact (keeps_moveTo _).bind fun _ => keeps_declarePrefix
      · exact keeps_statements fuel

/-! ## Documents -/

/-- Wherever the two readers begin, what the first one states comes first in what the other one
states. -/
def Precedes {α : Type} (reader other : Reader α) : Prop :=
  ∀ state, (reader.run.run state).2.stated <:+ (other.run.run state).2.stated

namespace Precedes

variable {α β : Type} {reader other : Reader α} {next following : α → Reader β}

theorem refl (reader : Reader α) : Precedes reader reader := fun _ => List.suffix_rfl

theorem bind (reader : Reader α) (h : ∀ found, Precedes (next found) (following found)) :
    Precedes (reader >>= next) (reader >>= following) := by
  intro state
  rw [Reader.run_bind, Reader.run_bind]
  rcases reader.run.run state with ⟨failure | found, later⟩
  · exact List.suffix_rfl
  · exact h found later

theorem ite {condition : Prop} [Decidable condition] {first second : Reader α}
    (h : Precedes second other) :
    Precedes (if condition then first else second) (if condition then first else other) := by
  split
  · exact refl first
  · exact h

end Precedes

/-- One item more adds to what has been stated. -/
theorem precedes_document (fuel count : Nat) :
    Precedes (document fuel count) (document fuel (count + 1)) := by
  induction count with
  | zero =>
    exact keeps_skip.bind fun _ => keeps_rest.bind fun _ => .ite (.pure _)
      ((keeps_item fuel).bind fun _ => .fail)
  | succ count ih =>
    exact .bind _ fun _ => .bind _ fun _ => .ite (.bind _ fun _ => ih)

/-- The reader after the first items of a document, or where it has failed before. -/
def after (base : Option Iri.Reference) (text : Document) (count : Nat) : State :=
  ((document (4 * text.length + 8) count).run.run (start base text)).2

theorem stated_after_suffix {base : Option Iri.Reference} {text : Document} {count total : Nat}
    (h : count ≤ total) : (after base text count).stated <:+ (after base text total).stated := by
  induction h with
  | refl => exact List.suffix_rfl
  | step _ ih => exact ih.trans (precedes_document _ _ _)

/-- **What the first items of a document state comes first in its reading**, whatever follows
them. -/
theorem stated_after {base : Option Iri.Reference} {text : Document} {count : Nat}
    (h : count ≤ text.length + 1) :
    (after base text count).stated.reverse <+: (reading base text).stated :=
  List.reverse_prefix.mpr (stated_after_suffix h)

end RdfGateway.Turtle
