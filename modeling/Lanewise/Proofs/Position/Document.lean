import Lanewise.Yaml.Document

/-!
# Nodes of a document

A tree is read from its first token to its last, and every node that is read stays a part of it. So
an alias in a document stands for a node of this document, and the positions of nodes are counted
from one (`document_anchored`).
-/

namespace Lanewise

def Pos.InText (p : Pos) : Prop := 1 ≤ p.line ∧ 1 ≤ p.column

namespace Yaml

-- ---------------------------------------------------------------------------
-- Nodes of a tree
-- ---------------------------------------------------------------------------

namespace Node

mutual
/-- A node and those below it, keys included. What an alias stands for is not below it. -/
def nodes : Node → List Node
  | .scalar pos tag style text => [.scalar pos tag style text]
  | .sequence pos tag items => .sequence pos tag items :: nodesIn items
  | .mapping pos tag fields => .mapping pos tag fields :: nodesOf fields
  | .alias pos name target => [.alias pos name target]
def nodesIn : List Node → List Node
  | [] => []
  | n :: rest => n.nodes ++ nodesIn rest
def nodesOf : List (Node × Node) → List Node
  | [] => []
  | (key, value) :: rest => key.nodes ++ (value.nodes ++ nodesOf rest)
end

theorem self_mem_nodes (n : Node) : n ∈ n.nodes := by
  cases n <;> simp [nodes]

def target? : Node → Option Node
  | .alias _ _ target => some target
  | _ => none

def places (document : Node) : List Pos := document.nodes.map (·.pos)

/-- Aliases stand for nodes of the document. -/
def Anchored (document : Node) : Prop :=
  ∀ n ∈ document.nodes, ∀ target ∈ n.target?, target ∈ document.nodes

theorem mem_nodesIn : n ∈ nodesIn items ↔ ∃ item ∈ items, n ∈ item.nodes := by
  induction items with
  | nil => simp [nodesIn]
  | cons item items ih => simp [nodesIn, ih]

theorem mem_nodesOf :
    n ∈ nodesOf fields ↔ ∃ field ∈ fields, n ∈ field.1.nodes ∨ n ∈ field.2.nodes := by
  induction fields with
  | nil => simp [nodesOf]
  | cons field fields ih => simp [nodesOf, ih, or_assoc]

mutual
theorem nodes_trans : (document : Node) → n ∈ document.nodes → m ∈ n.nodes → m ∈ document.nodes
  | .scalar .., hn, hm | .alias .., hn, hm => by
    rw [nodes, List.mem_singleton] at hn
    exact hn ▸ hm
  | .sequence _ _ items, hn, hm => by
    rw [nodes, List.mem_cons] at hn ⊢
    rcases hn with rfl | hn
    · rwa [nodes, List.mem_cons] at hm
    · exact .inr (nodesIn_trans items hn hm)
  | .mapping _ _ fields, hn, hm => by
    rw [nodes, List.mem_cons] at hn ⊢
    rcases hn with rfl | hn
    · rwa [nodes, List.mem_cons] at hm
    · exact .inr (nodesOf_trans fields hn hm)
theorem nodesIn_trans : (items : List Node) → n ∈ nodesIn items → m ∈ n.nodes → m ∈ nodesIn items
  | [], hn, _ => by simp [nodesIn] at hn
  | item :: rest, hn, hm => by
    rw [nodesIn, List.mem_append] at hn ⊢
    exact hn.imp (nodes_trans item · hm) (nodesIn_trans rest · hm)
theorem nodesOf_trans : (fields : List (Node × Node)) → n ∈ nodesOf fields → m ∈ n.nodes →
    m ∈ nodesOf fields
  | [], hn, _ => by simp [nodesOf] at hn
  | (key, value) :: rest, hn, hm => by
    rw [nodesOf, List.mem_append, List.mem_append] at hn ⊢
    exact hn.imp (nodes_trans key · hm) (.imp (nodes_trans value · hm) (nodesOf_trans rest · hm))
end

section
variable {document : Node}

theorem pos_mem (h : n ∈ document.nodes) : n.pos ∈ document.places := List.mem_map_of_mem h

theorem item_mem (h : .sequence p t items ∈ document.nodes) (hn : n ∈ items) :
    n ∈ document.nodes := by
  refine nodes_trans document h ?_
  rw [nodes]
  exact List.mem_cons_of_mem _ (mem_nodesIn.mpr ⟨n, hn, n.self_mem_nodes⟩)

theorem field_mem {field : Node × Node} (h : .mapping p t fields ∈ document.nodes)
    (hfield : field ∈ fields) : field.1 ∈ document.nodes ∧ field.2 ∈ document.nodes := by
  constructor
  all_goals
    refine nodes_trans document h ?_
    rw [nodes]
    refine List.mem_cons_of_mem _ (mem_nodesOf.mpr ⟨field, hfield, ?_⟩)
  · exact .inl field.1.self_mem_nodes
  · exact .inr field.2.self_mem_nodes

theorem Anchored.resolve_mem (ha : document.Anchored) (h : n ∈ document.nodes) :
    n.resolve ∈ document.nodes := by
  fun_induction resolve n with
  | case1 pos name target ih => exact ih (ha _ h target rfl)
  | case2 => exact h

end

end Node

-- ---------------------------------------------------------------------------
-- Reading
-- ---------------------------------------------------------------------------

/-- The nodes read so far: closed anchors and aliases stand for one of them, and all of them have
their places in a text. -/
structure Reader.Knows (r : Reader) (seen : List Node) : Prop where
  anchors : ∀ a ∈ r.anchors, ∀ n ∈ a.node, n ∈ seen
  targets : ∀ n ∈ seen, ∀ target ∈ n.target?, target ∈ seen
  inText : ∀ n ∈ seen, n.pos.InText

namespace Reader.Knows

variable {r r' : Reader} {seen : List Node} {n : Node}

theorem of_anchors (h : r.Knows seen) (same : r'.anchors = r.anchors) : r'.Knows seen :=
  ⟨same ▸ h.anchors, h.targets, h.inText⟩

theorem insert (h : r.Knows seen) (hpos : n.pos.InText) (htarget : ∀ t ∈ n.target?, t ∈ seen)
    (hmem : ∀ m, m ∈ all ↔ m = n ∨ m ∈ seen) : r.Knows all := by
  refine ⟨fun a ha m hm => (hmem m).mpr (.inr (h.anchors a ha m hm)), fun m hm t ht => ?_,
    fun m hm => ?_⟩
  · rcases (hmem m).mp hm with rfl | hm
    · exact (hmem t).mpr (.inr (htarget t ht))
    · exact (hmem t).mpr (.inr (h.targets m hm t ht))
  · rcases (hmem m).mp hm with rfl | hm
    · exact hpos
    · exact h.inText m hm

end Reader.Knows

theorem Properties.nodes_scalar (p : Properties) :
    (p.scalar style text).nodes = [p.scalar style text] := by
  simp [scalar, Node.nodes]

theorem Mark.inText_pos (m : Mark) : m.pos.InText := by
  constructor <;> simp only [Mark.pos] <;> omega

namespace ReadM

/-- From a reader that knows nodes, the reading comes to one that knows those of its result, too. -/
def Adds (seen : List Node) (after : α → List Node) (m : ReadM α) : Prop :=
  ∀ (r : Reader) a r', r.Knows seen → m.run r = .ok (a, r') → r'.Knows (after a)

theorem run_bind {m : ReadM α} {f : α → ReadM β} :
    (m >>= f).run r = .ok (b, r') ↔ ∃ a next, m.run r = .ok (a, next) ∧
      (f a).run next = .ok (b, r') := by
  rw [StateT.run_bind]
  rcases m.run r with fault | ⟨a, next⟩
  · simp [bind, Except.bind]
  · simp [bind, Except.bind, and_assoc]

namespace Adds

variable {seen : List Node} {mid : α → List Node} {after : β → List Node} {m : ReadM α}
  {f : α → ReadM β}

theorem bind (hm : Adds seen mid m) (hf : ∀ a, Adds (mid a) after (f a)) :
    Adds seen after (m >>= f) := by
  intro r b r' hr h
  obtain ⟨a, next, hfirst, hrest⟩ := run_bind.mp h
  exact hf a next b r' (hm r a next hr hfirst) hrest

theorem pure (h : mid a = seen) : Adds seen mid (pure a : ReadM α) := by
  rintro r _ r' hr ⟨⟩
  rw [h]
  exact hr

theorem fail : Adds seen mid (fail t problem : ReadM α) := fun _ _ _ _ h => (nomatch h)

end Adds

def Quiet (m : ReadM α) : Prop :=
  ∀ (r : Reader) a r', m.run r = .ok (a, r') → r'.anchors = r.anchors

namespace Quiet

variable {m : ReadM α} {f : α → ReadM β}

theorem adds (h : Quiet m) : Adds seen (fun _ => seen) m :=
  fun r a r' hr hrun => hr.of_anchors (h r a r' hrun)

theorem pure (a : α) : Quiet (pure a : ReadM α) := by
  rintro r _ r' ⟨⟩
  rfl

theorem fail : Quiet (fail t problem : ReadM α) := fun _ _ _ h => (nomatch h)

theorem get : Quiet (get : ReadM Reader) := by
  rintro r _ r' ⟨⟩
  rfl

theorem bind (hm : Quiet m) (hf : ∀ a, Quiet (f a)) : Quiet (m >>= f) := by
  intro r b r' h
  obtain ⟨a, next, hfirst, hrest⟩ := run_bind.mp h
  rw [hf a next b r' hrest, hm r a next hfirst]

theorem failIf {f : Unit → ReadM α} {c : Prop} [Decidable c] (h : Quiet (f ())) :
    Quiet (if c then ReadM.fail t problem >>= f else f ()) := by
  split
  · exact fun _ _ _ h => (nomatch h)
  · exact h

theorem peek : Quiet peek := by
  refine .bind .get fun r => ?_
  split
  · exact .pure _
  · exact fun _ _ _ h => (nomatch h)
  · exact fun _ _ _ h => (nomatch h)

theorem skip : Quiet skip := by
  rintro r _ r' ⟨⟩
  dsimp only
  split
  · split <;> rfl
  · rfl

theorem resolveTag : Quiet (resolveTag t handle suffix) := by
  unfold ReadM.resolveTag
  split
  · exact .pure _
  · refine .bind .get fun r => ?_
    split
    · exact .pure _
    · exact .fail

theorem properties : Quiet properties := by
  refine .bind .peek fun t => ?_
  split
  · refine .bind .skip fun _ => .bind .peek fun u => ?_
    split
    · exact .bind .skip fun _ => .bind .resolveTag fun _ => .pure _
    · exact .pure _
  · refine .bind .skip fun _ => .bind .peek fun u => ?_
    split
    · exact .bind .skip fun _ => .bind .resolveTag fun _ => .pure _
    · exact .bind .resolveTag fun _ => .pure _
  · exact .pure _

end Quiet

namespace Adds

theorem peek {after : α → List Node} {f : ReadToken → ReadM α} (h : ∀ t, Adds seen after (f t)) :
    Adds seen after (ReadM.peek >>= f) :=
  .bind Quiet.peek.adds h

theorem skip {after : α → List Node} {f : Unit → ReadM α} (h : Adds seen after (f ())) :
    Adds seen after (ReadM.skip >>= f) :=
  .bind Quiet.skip.adds fun _ => h

theorem openAnchor : Adds seen (fun _ => seen) (openAnchor name) := by
  rintro r _ r' hr ⟨⟩
  refine ⟨fun a ha n hn => ?_, hr.targets, hr.inText⟩
  rcases List.mem_cons.mp ha with rfl | ha
  · cases hn
  · exact hr.anchors a ha n hn

theorem closeAnchor (hn : n ∈ seen) : Adds seen (fun _ => seen) (closeAnchor number n) := by
  rintro r _ r' hr ⟨⟩
  refine ⟨fun a ha m hm => ?_, hr.targets, hr.inText⟩
  obtain ⟨i, hi⟩ := List.mem_iff_getElem?.mp ha
  rw [List.getElem?_modify] at hi
  obtain ⟨old, hold, rfl⟩ := Option.map_eq_some_iff.mp hi
  split at hm
  · obtain rfl := Option.some.inj hm
    exact hn
  · exact hr.anchors old (List.mem_of_getElem? hold) m hm

/-- An anchor is closed with a node that is read by then. -/
theorem anchored {m : ReadM Node} (h : Adds seen (fun n => seen ++ n.nodes) m) :
    Adds seen (fun n => seen ++ n.nodes) (anchored p m) := by
  unfold ReadM.anchored
  split
  · exact h
  · exact .bind .openAnchor fun _ => .bind h fun n =>
      .bind (.closeAnchor (List.mem_append_right _ n.self_mem_nodes)) fun _ => .pure rfl

theorem aliased {t : ReadToken} : Adds seen (fun n => seen ++ n.nodes) (do
    let target ← ReadM.aliased t name
    ReadM.skip
    Pure.pure (Node.alias t.start.pos name target)) := by
  intro r n r' hr h
  obtain ⟨target, next, hfound, h⟩ := run_bind.mp h
  obtain ⟨_, _, hskip, ⟨⟩⟩ := run_bind.mp h
  have hfound : target ∈ seen ∧ next.Knows seen := by
    obtain ⟨_, _, ⟨⟩, hfound⟩ := run_bind.mp hfound
    split at hfound
    · rename_i anchor hanchor
      cases hfound
      exact ⟨hr.anchors _ (List.mem_of_find?_eq_some hanchor) target rfl, hr⟩
    -- An anchor that is still open has no node, and an alias of it is refused.
    · cases hfound
    · cases hfound
  have hlast : r'.Knows seen := Quiet.skip.adds next () r' hfound.2 hskip
  refine hlast.insert (n := .alias t.start.pos name target) t.start.inText_pos ?_ ?_
  · rintro _ ⟨⟩
    exact hfound.1
  · simp [Node.nodes, or_comm]

theorem insert {after : α → List Node} (n : Node) (hpos : n.pos.InText) (htarget : n.target? = none)
    (hmem : ∀ m, m ∈ after a ↔ m = n ∨ m ∈ seen) : Adds seen after (Pure.pure a : ReadM α) := by
  rintro r _ r' hr ⟨⟩
  exact hr.insert hpos (by simp [htarget]) hmem

theorem scalar (p : Properties) (style : Style) (text : String) :
    Adds seen (fun n => seen ++ n.nodes) (Pure.pure (p.scalar style text) : ReadM Node) :=
  .insert (p.scalar style text) p.start.inText_pos rfl
    (by simp [Properties.nodes_scalar, or_comm])

theorem empty (m : Mark) :
    Adds seen (fun n => seen ++ n.nodes) (Pure.pure (emptyNode m) : ReadM Node) :=
  .scalar { start := m } .plain ""

theorem sequence (m : Mark) (tag : String) (items : List Node) :
    Adds (seen ++ Node.nodesIn items) (fun n => seen ++ n.nodes)
      (Pure.pure (Node.sequence m.pos tag items)) :=
  .insert (.sequence m.pos tag items) m.inText_pos rfl (by simp [Node.nodes, or_left_comm])

theorem mapping (m : Mark) (tag : String) (fields : List (Node × Node)) :
    Adds (seen ++ Node.nodesOf fields) (fun n => seen ++ n.nodes)
      (Pure.pure (Node.mapping m.pos tag fields)) :=
  .insert (.mapping m.pos tag fields) m.inText_pos rfl (by simp [Node.nodes, or_left_comm])

theorem failIf {after : α → List Node} {f : Unit → ReadM α} {c : Prop} [Decidable c]
    (h : Adds seen after (f ())) :
    Adds seen after (if c then ReadM.fail t problem >>= f else f ()) := by
  split
  · exact fun _ _ _ _ h => (nomatch h)
  · exact h

theorem behindComma {after : α → List Node} {f : Unit → ReadM α} {t : ReadToken}
    (h : Adds seen after (f ())) :
    Adds seen after (if !isFirst then
      if t.lexeme == .flowEntry then ReadM.skip >>= f else ReadM.fail t problem >>= f
      else f ()) := by
  split
  · split
    · exact .skip h
    · exact fun _ _ _ _ h => (nomatch h)
  · exact h

end Adds

open Node (nodesIn nodesOf)

-- By induction on the fuel, for all known nodes at once: what comes second in a list or mapping
-- may name the anchors of what came first.
mutual
theorem node_adds (inBlock bare : Bool) : (fuel : Nat) → (seen : List Node) →
    Adds seen (fun n => seen ++ n.nodes) (node inBlock bare fuel)
  | 0, _ => .peek fun _ => .fail
  | fuel + 1, seen => by
    refine .peek fun t => ?_
    split
    · exact .aliased
    · exact .bind Quiet.properties.adds fun p => .peek fun u =>
        .anchored (content_adds inBlock bare p u fuel seen)
theorem content_adds (inBlock bare : Bool) (p : Properties) (t : ReadToken) :
    (fuel : Nat) → (seen : List Node) →
    Adds seen (fun n => seen ++ n.nodes) (content inBlock bare p t fuel)
  | 0, _ => .fail
  | fuel + 1, seen => by
    unfold content
    dsimp only
    split
    · exact .skip (.scalar p _ _)
    · exact .skip (.bind (flowItems_adds true fuel seen) fun _ => .sequence _ _ _)
    · exact .skip (.bind (flowFields_adds true fuel seen) fun _ => .mapping _ _ _)
    split
    · exact .bind (bareItems_adds fuel seen) fun _ => .sequence _ _ _
    split
    · exact .skip (.bind (blockItems_adds fuel seen) fun _ => .sequence _ _ _)
    split
    · exact .skip (.bind (blockFields_adds fuel seen) fun _ => .mapping _ _ _)
    split
    · exact .scalar p _ _
    · exact .fail
theorem blockItems_adds : (fuel : Nat) → (seen : List Node) →
    Adds seen (fun items => seen ++ nodesIn items) (blockItems fuel)
  | 0, _ => .peek fun _ => .fail
  | fuel + 1, seen => by
    have rest (item : Node) : Adds (seen ++ item.nodes) (fun items => seen ++ nodesIn items)
        (do pure (item :: (← blockItems fuel))) :=
      .bind (blockItems_adds fuel _) fun _ => .pure (by simp [nodesIn])
    refine .peek fun t => ?_
    split
    · refine .skip (.peek fun u => ?_)
      dsimp only
      split
      · exact .bind (.empty _) rest
      · exact .bind (node_adds true false fuel seen) rest
    · exact .skip (.pure (by simp [nodesIn]))
    · exact .fail
theorem bareItems_adds : (fuel : Nat) → (seen : List Node) →
    Adds seen (fun items => seen ++ nodesIn items) (bareItems fuel)
  | 0, _ => .peek fun _ => .fail
  | fuel + 1, seen => by
    have rest (item : Node) : Adds (seen ++ item.nodes) (fun items => seen ++ nodesIn items)
        (do pure (item :: (← bareItems fuel))) :=
      .bind (bareItems_adds fuel _) fun _ => .pure (by simp [nodesIn])
    refine .peek fun t => ?_
    split
    · refine .skip (.peek fun u => ?_)
      dsimp only
      split
      · exact .bind (.empty _) rest
      · exact .bind (node_adds true false fuel seen) rest
    · exact .pure (by simp [nodesIn])
theorem blockFields_adds : (fuel : Nat) → (seen : List Node) →
    Adds seen (fun fields => seen ++ nodesOf fields) (blockFields fuel)
  | 0, _ => .peek fun _ => .fail
  | fuel + 1, seen => by
    have rest (key : Node) : Adds (seen ++ key.nodes) (fun fields => seen ++ nodesOf fields)
        (do
          let value ← blockValue fuel
          pure ((key, value) :: (← blockFields fuel))) :=
      .bind (blockValue_adds fuel _) fun _ => .bind (blockFields_adds fuel _) fun _ =>
        .pure (by simp [nodesOf])
    refine .peek fun t => ?_
    split
    · refine .skip (.peek fun u => ?_)
      dsimp only
      split
      · exact .bind (.empty _) rest
      · exact .bind (node_adds true true fuel seen) rest
    · exact .skip (.pure (by simp [nodesOf]))
    · exact .fail
theorem blockValue_adds : (fuel : Nat) → (seen : List Node) →
    Adds seen (fun n => seen ++ n.nodes) (blockValue fuel)
  | 0, _ => .peek fun _ => .fail
  | fuel + 1, seen => by
    refine .peek fun t => ?_
    split
    · refine .skip (.peek fun u => ?_)
      split
      · exact .empty _
      · exact node_adds true true fuel seen
    · exact .empty _
theorem flowItems_adds (isFirst : Bool) : (fuel : Nat) → (seen : List Node) →
    Adds seen (fun items => seen ++ nodesIn items) (flowItems isFirst fuel)
  | 0, _ => .peek fun _ => .fail
  | fuel + 1, seen => by
    have rest (item : Node) : Adds (seen ++ item.nodes) (fun items => seen ++ nodesIn items)
        (do pure (item :: (← flowItems false fuel))) :=
      .bind (flowItems_adds false fuel _) fun _ => .pure (by simp [nodesIn])
    refine .peek fun t => ?_
    split
    · exact .skip (.pure (by simp [nodesIn]))
    · refine .behindComma (.peek fun u => ?_)
      split
      · exact .skip (.pure (by simp [nodesIn]))
      · exact .skip (.bind (flowPairKey_adds fuel _) fun key => .bind (flowPairValue_adds fuel _)
          fun value => .bind (flowItems_adds false fuel _) fun items =>
            .insert (.mapping u.start.pos "!!map" [(key, value)]) u.start.inText_pos rfl
              (by simp [nodesIn, nodesOf, Node.nodes, or_left_comm]))
      · exact .bind (node_adds false false fuel seen) rest
theorem flowPairKey_adds : (fuel : Nat) → (seen : List Node) →
    Adds seen (fun n => seen ++ n.nodes) (flowPairKey fuel)
  | 0, _ => .peek fun _ => .fail
  | fuel + 1, seen => by
    refine .peek fun t => ?_
    split
    · exact .skip (.empty _)
    · exact node_adds false false fuel seen
theorem flowPairValue_adds : (fuel : Nat) → (seen : List Node) →
    Adds seen (fun n => seen ++ n.nodes) (flowPairValue fuel)
  | 0, _ => .peek fun _ => .fail
  | fuel + 1, seen => by
    refine .peek fun t => ?_
    split
    · refine .skip (.peek fun u => ?_)
      split
      · exact .empty _
      · exact node_adds false false fuel seen
    · exact .empty _
theorem flowFields_adds (isFirst : Bool) : (fuel : Nat) → (seen : List Node) →
    Adds seen (fun fields => seen ++ nodesOf fields) (flowFields isFirst fuel)
  | 0, _ => .peek fun _ => .fail
  | fuel + 1, seen => by
    have rest (key : Node) : Adds (seen ++ key.nodes) (fun fields => seen ++ nodesOf fields)
        (do
          let value ← flowValue fuel
          pure ((key, value) :: (← flowFields false fuel))) :=
      .bind (flowValue_adds fuel _) fun _ => .bind (flowFields_adds false fuel _) fun _ =>
        .pure (by simp [nodesOf])
    refine .peek fun t => ?_
    split
    · exact .skip (.pure (by simp [nodesOf]))
    · refine .behindComma (.peek fun u => ?_)
      split
      · exact .skip (.pure (by simp [nodesOf]))
      · refine .skip (.peek fun v => ?_)
        dsimp only
        split
        · exact .bind (.empty _) rest
        · exact .bind (node_adds false false fuel seen) rest
      · exact .bind (node_adds false false fuel seen) fun key => .peek fun v =>
          .bind (flowFields_adds false fuel _) fun fields =>
            .insert (emptyNode v.start) v.start.inText_pos rfl
              (by simp [nodesOf, emptyNode, Properties.nodes_scalar, or_left_comm])
theorem flowValue_adds : (fuel : Nat) → (seen : List Node) →
    Adds seen (fun n => seen ++ n.nodes) (flowValue fuel)
  | 0, _ => .peek fun _ => .fail
  | fuel + 1, seen => by
    refine .peek fun t => ?_
    split
    · refine .skip (.peek fun u => ?_)
      split
      · exact .empty _
      · exact node_adds false false fuel seen
    · exact .empty _
end

theorem Quiet.directives (version : Bool) (fuel : Nat) : Quiet (directives version fuel) := by
  induction fuel generalizing version with
  | zero => exact .pure ()
  | succ fuel ih =>
    refine .bind .peek fun t => ?_
    split
    · exact .failIf (.failIf (.bind .skip fun _ => ih true))
    · intro r _ r' h
      obtain ⟨_, _, ⟨⟩, h⟩ := run_bind.mp h
      dsimp only at h
      split at h
      · cases h
      · obtain ⟨_, _, ⟨⟩, h⟩ := run_bind.mp h
        have rest : Quiet (do ReadM.skip; ReadM.directives version fuel) :=
          .bind .skip fun _ => ih version
        -- Only the handles differ from those of the reader before.
        have kept := rest _ _ _ h
        exact kept
    · exact .pure ()

theorem Quiet.defaultHandles : Quiet defaultHandles := by
  rintro r _ r' ⟨⟩
  rfl

theorem markedDocument_adds (fuel : Nat) : Adds [] (·.nodes) (markedDocument fuel) := by
  refine .bind (Quiet.directives false fuel).adds fun _ => .bind Quiet.defaultHandles.adds fun _ =>
    .peek fun t => .failIf (.skip (.peek fun u => ?_))
  split
  · exact .empty u.start
  · exact node_adds true false fuel []

theorem document_adds (fuel : Nat) : Adds [] (·.elim [] Node.nodes) (document fuel) := by
  refine .peek fun _ => .skip (.peek fun t => ?_)
  split
  · exact .pure rfl
  iterate 3 exact .bind (markedDocument_adds fuel) fun root => .peek fun _ => .pure rfl
  · exact .bind Quiet.defaultHandles.adds fun _ => .bind (node_adds true false fuel []) fun root =>
      .peek fun _ => .pure rfl

end ReadM

/-- The aliases of a document that is read from a text stand for nodes of it, and its nodes have
their places in a text. -/
theorem document_anchored (h : document text = .ok (some root)) :
    root.Anchored ∧ ∀ p ∈ root.places, p.InText := by
  unfold document at h
  dsimp only at h
  generalize hreader : Reader.mk _ _ _ _ = r at h
  cases hrun : (ReadM.document (4 * (Tokens.ofText text).tokens.length + 8)).run r with
  | error fault =>
    rw [hrun] at h
    cases h
  | ok outcome =>
    rw [hrun] at h
    obtain ⟨root?, last⟩ := outcome
    obtain rfl : root? = some root := Except.ok.inj h
    have start : r.Knows [] := by
      subst hreader
      exact ⟨nofun, nofun, nofun⟩
    have known : last.Knows root.nodes := ReadM.document_adds _ r _ last start hrun
    refine ⟨known.targets, fun p hp => ?_⟩
    obtain ⟨n, hn, rfl⟩ := List.mem_map.mp hp
    exact known.inText n hn

end Yaml

end Lanewise
