import Tablewright.Proofs.Registry.Registered

/-!
# The graph of relationships

The graph of a registry is drawn relationship by relationship. One step adds an edge that carries
what the relationship says (`carries_nextEdge`), numbered behind the edges parallel to it
(`Draws.draw`), and a node only where none equals it; so a whole run draws every registered
relationship once, numbers parallel edges from zero in the order of registration, and has the models
and targets for nodes (`depicts_of_graph`). It stops only at a target that can be no node
(`graph_eq_ok`).
-/

namespace Tablewright

namespace Value

/-- A value tells others apart: two that equal it equal each other, and of two that equal each other
both or neither equal it. -/
def Discerns (v : Value) (values : List Value) : Prop :=
  ∀ a ∈ values, ∀ b ∈ values,
    (v.same a = true → v.same b = true → b.same a = true) ∧
      (b.same a = true → (v.same a = true ↔ v.same b = true))

/-- Texts tell all values apart. -/
theorem discerns_of_text? {v : Value} {s : String} (h : v.text? = some s) (values : List Value) :
    v.Discerns values := by
  intro a _ b _
  rw [same_iff_of_text? h, same_iff_of_text? h]
  refine ⟨fun ha hb => (same_iff_of_text? hb).2 ha, fun hsame => ⟨fun ha => ?_, fun hb => ?_⟩⟩
  · exact (same_iff_of_text?_right ha).1 hsame
  · exact (same_iff_of_text? hb).1 hsame

theorem Discerns.mono {v : Value} {values others : List Value} (h : v.Discerns others)
    (hsub : values ⊆ others) : v.Discerns values :=
  fun a ha b hb => h a (hsub ha) b (hsub hb)

/-- What may be a node: what may be a key, but not null. -/
def IsNode (v : Value) : Prop :=
  v.isHashable = true ∧ v.isNull = false

theorem isNode_of_text? {v : Value} {s : String} (h : v.text? = some s) : v.IsNode := by
  refine ⟨isHashable_of_text? h, ?_⟩
  rcases eq_str_or_eq_scalar_of_text? h with rfl | rfl <;> rfl

end Value

namespace Registry

/-! ## What is drawn -/

/-- Every model, before the targets of its relationships. -/
def mentioned (entries : List (String × List Relationship)) : List Value :=
  entries.flatMap fun entry => .str entry.1 :: entry.2.map Relationship.target

/-- The relationships that lead from a model to a target. -/
def leading (ps : List (String × Relationship)) (source : String) (target : Value) :
    List Relationship :=
  (ps.filter fun p => p.1 == source && target.same p.2.target).map Prod.snd

/-- The relationships that lead to a name are those whose target is the name. -/
theorem leading_str (ps : List (String × Relationship)) (source name : String) :
    leading ps source (.str name) =
      (ps.filter fun p => p.1 == source && p.2.target.text? == some name).map Prod.snd := by
  have hsame (v : Value) : (Value.str name).same v = (v.text? == some name) := by
    rw [Bool.eq_iff_iff, Value.same_iff_of_text? rfl, beq_iff_eq]
  simp only [leading, hsame]

variable {history : List (String × List Relationship)} {r : Registry}

/-- What is mentioned is a model or a target. -/
theorem mem_mentioned {entries : List (String × List Relationship)} {v : Value} :
    v ∈ mentioned entries ↔
      (∃ name ∈ Named.names entries, v = .str name) ∨
        ∃ p ∈ registered entries, v = p.2.target := by
  simp only [mentioned, registered, Named.names, List.mem_flatMap, List.mem_cons, List.mem_map]
  constructor
  · rintro ⟨entry, hentry, rfl | ⟨rel, hrel, rfl⟩⟩
    · exact .inl ⟨_, ⟨entry, hentry, rfl⟩, rfl⟩
    · exact .inr ⟨_, ⟨entry, hentry, rel, hrel, rfl⟩, rfl⟩
  · rintro (⟨_, ⟨entry, hentry, rfl⟩, rfl⟩ | ⟨_, ⟨entry, hentry, rel, hrel, rfl⟩, rfl⟩)
    · exact ⟨entry, hentry, .inl rfl⟩
    · exact ⟨entry, hentry, .inr ⟨rel, hrel, rfl⟩⟩

/-- After a history the registry mentions what the registrations do. -/
theorem mem_mentioned_ofHistory {v : Value} :
    v ∈ mentioned (ofHistory history) ↔ v ∈ mentioned history := by
  simp only [mem_mentioned, (registered_ofHistory history).mem_iff]
  refine or_congr_left (exists_congr fun name => and_congr_left fun _ => ?_)
  exact (names_ofHistory history).2 name

/-- **After a history the relationships between two ends are those of the registrations, in
order.** -/
theorem leading_ofHistory (history : List (String × List Relationship)) (source : String)
    (target : Value) :
    leading (registered (ofHistory history)) source target =
      leading (registered history) source target := by
  have hleading (entries : List (String × List Relationship)) :
      leading (registered entries) source target =
        ((entries.filter (·.1 = source)).flatMap (·.2)).filter (target.same ·.target) := by
    rw [← filter_registered, List.filter_map, List.filter_filter, leading]
    simp only [Function.comp_def, Bool.and_comm]
  rw [hleading, hleading, flatMap_filter_eq_lookup (names_ofHistory history).1, lookup_ofHistory]

/-! ## Edges and what they stand for -/

/-- An edge carries what a relationship says. -/
structure Edge.Carries (e : Edge) (rel : Relationship) : Prop where
  /-- The kind is that of the relationship. -/
  kind : e.kind = rel.kind
  /-- The attribute is that of the relationship. -/
  foreignKey : e.foreignKey = rel.foreignKey
  /-- The name for the target is that of the relationship. -/
  targetAlias : e.targetAlias = rel.targetAlias

/-- An edge is that of a relationship of a model. -/
structure Edge.StandsFor (e : Edge) (p : String × Relationship) : Prop where
  /-- It begins at the model. -/
  source : e.source = p.1
  /-- It leads to the target, or to what equals it. -/
  target : e.target = p.2.target ∨ p.2.target.same e.target = true
  /-- It carries what the relationship says. -/
  carries : e.Carries p.2

/-- A graph draws relationships between two nodes: an edge for each, in order, numbered from
zero. -/
structure Graph.Draws (g : Graph) (source : String) (target : Value) (rels : List Relationship) :
    Prop where
  /-- The edges are numbered in order. -/
  keys : (g.between source target).map Edge.key = List.range rels.length
  /-- Each carries what its relationship says. -/
  carries : List.Forall₂ Edge.Carries (g.between source target) rels

namespace Graph

variable {g g' : Graph} {source : String} {rel : Relationship} {target : Value}
  {p : String × Relationship} {ps : List (String × Relationship)}

/-! ## One step -/

/-- The graph with the edge of a relationship and the node it leads to. -/
def draw (g : Graph) (p : String × Relationship) : Graph :=
  { g.addNode p.2.target with edges := g.edges ++ [g.nextEdge p.1 p.2] }

/-- The graph with the node of a model and the edges of its relationships. -/
def drawModel (g : Graph) (entry : String × List Relationship) : Graph :=
  (entry.2.map (entry.1, ·)).foldl draw (g.addNode (.str entry.1))

@[simp] theorem nodes_addNode (g : Graph) (v : Value) :
    (g.addNode v).nodes = Value.keepNew g.nodes v := by
  rw [addNode, Value.keepNew]
  split <;> rfl

@[simp] theorem edges_addNode (g : Graph) (v : Value) : (g.addNode v).edges = g.edges := by
  rw [addNode]
  split <;> rfl

@[simp] theorem nodes_draw (g : Graph) (p : String × Relationship) :
    (g.draw p).nodes = Value.keepNew g.nodes p.2.target :=
  nodes_addNode g p.2.target

@[simp] theorem edges_draw (g : Graph) (p : String × Relationship) :
    (g.draw p).edges = g.edges ++ [g.nextEdge p.1 p.2] := rfl

/-- **A relationship is drawn** unless its target can be no node. -/
theorem addEdge_eq_ok :
    g.addEdge source rel = .ok g' ↔ rel.target.IsNode ∧ g.draw (source, rel) = g' := by
  rw [addEdge, Value.asKey, Value.IsNode]
  cases rel.target.isHashable with
  | false =>
    constructor
    · intro h
      cases h
    · rintro ⟨⟨hkey, -⟩, -⟩
      cases hkey
  | true =>
    show (if rel.target.isNull = true
      then wrongValue >>= fun _ : Unit => pure (g.draw (source, rel))
      else pure (g.draw (source, rel))) = .ok g' ↔ _
    cases rel.target.isNull with
    | true =>
      constructor
      · intro h
        cases h
      · rintro ⟨⟨-, hnull⟩, -⟩
        cases hnull
    | false =>
      rw [if_neg Bool.false_ne_true, Fallible.pure_eq_ok]
      exact ⟨fun h => ⟨⟨rfl, rfl⟩, h⟩, And.right⟩

/-- **A model is drawn** unless some target can be no node. -/
theorem addModel_eq_ok {entry : String × List Relationship} :
    g.addModel entry = .ok g' ↔
      (∀ rel ∈ entry.2, rel.target.IsNode) ∧ g.drawModel entry = g' := by
  have hstep : ∀ g rel g', addEdge g entry.1 rel = .ok g' ↔
      rel.target.IsNode ∧ g.draw (entry.1, rel) = g' := fun _ _ _ => addEdge_eq_ok
  rw [addModel, Fallible.foldlM_eq_ok hstep, drawModel, List.foldl_map]

/-- The edge of a relationship leads to its target, or to an equal one that an edge leads to. -/
theorem target_nextEdge (g : Graph) (source : String) (rel : Relationship) :
    (g.nextEdge source rel).target = rel.target ∨
      ∃ e ∈ g.edges, rel.target.same e.target = true ∧
        (g.nextEdge source rel).target = e.target := by
  rw [nextEdge]
  cases hfirst : (g.between source rel.target).head? with
  | none => exact .inl rfl
  | some e =>
    obtain ⟨he, hconnects⟩ := List.mem_filter.1 (List.mem_of_head? hfirst)
    exact .inr ⟨e, he, (Bool.and_eq_true_iff.1 hconnects).2, rfl⟩

theorem carries_nextEdge (g : Graph) (source : String) (rel : Relationship) :
    (g.nextEdge source rel).Carries rel :=
  ⟨rfl, rfl, rfl⟩

/-- **The edge of a relationship stands for it.** -/
theorem standsFor_nextEdge (g : Graph) (p : String × Relationship) :
    (g.nextEdge p.1 p.2).StandsFor p where
  source := rfl
  target := (target_nextEdge g p.1 p.2).imp id fun ⟨_, _, hsame, heq⟩ => heq ▸ hsame
  carries := carries_nextEdge g p.1 p.2

/-- The targets of edges are among the values. -/
def LeadsInto (g : Graph) (values : List Value) : Prop :=
  ∀ e ∈ g.edges, e.target ∈ values

theorem LeadsInto.draw {values : List Value} (h : g.LeadsInto values)
    (hp : p.2.target ∈ values) : (g.draw p).LeadsInto values := by
  intro e he
  rcases List.mem_append.1 he with he | he
  · exact h e he
  · obtain rfl := List.mem_singleton.1 he
    rcases target_nextEdge g p.1 p.2 with heq | ⟨first, hfirst, -, heq⟩
    · exact heq ▸ hp
    · exact heq ▸ h first hfirst

/-- A value that tells targets apart equals what an edge leads to exactly when it equals the
target. -/
theorem same_target_nextEdge {values : List Value} (h : g.LeadsInto values)
    (hp : p.2.target ∈ values) (hv : target.Discerns values) :
    target.same (g.nextEdge p.1 p.2).target = target.same p.2.target := by
  rcases target_nextEdge g p.1 p.2 with heq | ⟨first, hfirst, hsame, heq⟩
  · rw [heq]
  · rw [heq, Bool.eq_iff_iff]
    exact (hv _ (h first hfirst) _ hp).2 hsame

/-- Equal targets have the same edges. -/
theorem between_eq_of_same {values : List Value} (h : g.LeadsInto values) {v : Value}
    (hv : v ∈ values) (htarget : target.Discerns values) (hsame : target.same v = true)
    (source : String) : g.between source v = g.between source target := by
  refine List.filter_congr fun e he => ?_
  have hiff : v.same e.target = true ↔ target.same e.target = true := by
    obtain ⟨hequal, hboth⟩ := htarget _ (h e he) _ hv
    exact ⟨fun hve => (hboth hve).2 hsame, fun hte => hequal hte hsame⟩
  rw [Edge.connects, Edge.connects, Bool.eq_iff_iff.2 hiff]

/-- **What is drawn between two nodes stays drawn**, and one more edge gets the next number. -/
theorem Draws.draw {values : List Value} (h : g.LeadsInto values) (hp : p.2.target ∈ values)
    (hv : target.Discerns values) (hdraws : g.Draws source target (leading ps source target)) :
    (g.draw p).Draws source target (leading (ps ++ [p]) source target) := by
  have hconnects : Edge.connects source target (g.nextEdge p.1 p.2) =
      (p.1 == source && target.same p.2.target) := by
    rw [Edge.connects, same_target_nextEdge h hp hv]
    rfl
  have hbetween : (g.draw p).between source target = g.between source target ++
      if p.1 == source && target.same p.2.target then [g.nextEdge p.1 p.2] else [] := by
    rw [between, edges_draw, List.filter_append, ← between, List.filter_cons, List.filter_nil,
      hconnects]
  have hleading : leading (ps ++ [p]) source target = leading ps source target ++
      if p.1 == source && target.same p.2.target then [p.2] else [] := by
    rw [leading, List.filter_append, List.map_append, ← leading, List.filter_cons, List.filter_nil]
    split <;> rfl
  rw [hleading]
  by_cases hends : (p.1 == source && target.same p.2.target) = true
  · rw [if_pos hends] at hbetween ⊢
    obtain ⟨hsource, hsame⟩ := Bool.and_eq_true_iff.1 hends
    -- the edge is numbered by those parallel to it, and these are the edges between the two nodes
    have hkey : (g.nextEdge p.1 p.2).key = (leading ps source target).length := by
      show (g.between p.1 p.2.target).length = _
      rw [beq_iff_eq.1 hsource, between_eq_of_same h hp hv hsame, hdraws.carries.length_eq]
    constructor
    · rw [hbetween, List.map_append, hdraws.keys, List.length_append, List.length_singleton,
        List.range_succ, List.map_singleton, hkey]
    · rw [hbetween]
      exact List.rel_append hdraws.carries (.cons (carries_nextEdge g p.1 p.2) .nil)
  · rw [if_neg hends, List.append_nil] at hbetween ⊢
    exact ⟨hbetween ▸ hdraws.keys, hbetween ▸ hdraws.carries⟩

/-! ## A whole run -/

/-- A graph shows some relationships: its edges stand for them one by one, and between any two nodes
that are told apart they are drawn in order. -/
structure Shows (g : Graph) (ps : List (String × Relationship)) : Prop where
  /-- The edges stand for the relationships, each in its place. -/
  stands : List.Forall₂ Edge.StandsFor g.edges ps
  /-- They lead to targets. -/
  leads : g.LeadsInto (ps.map (·.2.target))
  /-- Between two nodes the relationships are drawn in order. -/
  draws : ∀ source target, target.Discerns (ps.map (·.2.target)) →
    g.Draws source target (leading ps source target)

theorem shows_empty : Shows {} [] where
  stands := .nil
  leads := fun _ he => absurd he List.not_mem_nil
  draws := fun _ _ _ => ⟨rfl, .nil⟩

/-- A node changes nothing of what is shown. -/
theorem Shows.addNode (h : g.Shows ps) (v : Value) : (g.addNode v).Shows ps where
  stands := by
    rw [edges_addNode]
    exact h.stands
  leads := by
    rw [LeadsInto, edges_addNode]
    exact h.leads
  draws source target hv := by
    have hbetween : (g.addNode v).between source target = g.between source target := by
      rw [between, between, edges_addNode]
    obtain ⟨hkeys, hcarries⟩ := h.draws source target hv
    exact ⟨hbetween ▸ hkeys, hbetween ▸ hcarries⟩

/-- **One more relationship is shown behind the others.** -/
theorem Shows.draw (h : g.Shows ps) (p : String × Relationship) :
    (g.draw p).Shows (ps ++ [p]) := by
  have hsub : ps.map (·.2.target) ⊆ (ps ++ [p]).map (·.2.target) :=
    List.map_subset _ (List.subset_append_left ps [p])
  have hp : p.2.target ∈ (ps ++ [p]).map (·.2.target) :=
    List.mem_map_of_mem (List.mem_append_right ps (List.mem_singleton_self p))
  have hleads : g.LeadsInto ((ps ++ [p]).map (·.2.target)) := fun e he => hsub (h.leads e he)
  exact {
    stands := List.rel_append h.stands (.cons (standsFor_nextEdge g p) .nil)
    leads := hleads.draw hp
    draws := fun source target hv => (h.draws source target (hv.mono hsub)).draw hleads hp hv }

theorem Shows.foldl_draw (h : g.Shows ps) (more : List (String × Relationship)) :
    (more.foldl Graph.draw g).Shows (ps ++ more) := by
  induction more generalizing g ps with
  | nil => rwa [List.append_nil]
  | cons p more ih =>
    rw [List.append_cons]
    exact ih (h.draw p)

/-- **A run over models shows the relationships of all of them.** -/
theorem Shows.foldl_drawModel (h : g.Shows ps) (entries : List (String × List Relationship)) :
    (entries.foldl drawModel g).Shows (ps ++ registered entries) := by
  induction entries generalizing g ps with
  | nil => exact (List.append_nil ps).symm ▸ h
  | cons entry entries ih =>
    rw [registered_cons, ← List.append_assoc]
    exact ih ((h.addNode _).foldl_draw _)

theorem nodes_foldl_draw (g : Graph) (ps : List (String × Relationship)) :
    (ps.foldl draw g).nodes = (ps.map (·.2.target)).foldl Value.keepNew g.nodes := by
  induction ps generalizing g with
  | nil => rfl
  | cons p ps ih => rw [List.foldl_cons, ih, nodes_draw, List.map_cons, List.foldl_cons]

/-- **A run over models keeps what they mention as nodes**, each unless an equal one is there. -/
theorem nodes_foldl_drawModel (g : Graph) (entries : List (String × List Relationship)) :
    (entries.foldl drawModel g).nodes = (mentioned entries).foldl Value.keepNew g.nodes := by
  induction entries generalizing g with
  | nil => rfl
  | cons entry entries ih =>
    have hmodel : (g.drawModel entry).nodes =
        (.str entry.1 :: entry.2.map Relationship.target).foldl Value.keepNew g.nodes := by
      rw [drawModel, nodes_foldl_draw, nodes_addNode, List.map_map]
      rfl
    rw [List.foldl_cons, ih, hmodel, ← List.foldl_append]
    rfl

end Graph

/-- **The graph is drawn** unless some target can be no node. -/
theorem graph_eq_ok {g : Graph} :
    r.graph = .ok g ↔
      (∀ p ∈ registered r, p.2.target.IsNode) ∧ r.foldl Graph.drawModel {} = g := by
  have hstep : ∀ g entry g', Graph.addModel g entry = .ok g' ↔
      (∀ rel ∈ entry.2, rel.target.IsNode) ∧ g.drawModel entry = g' :=
    fun _ _ _ => Graph.addModel_eq_ok
  rw [graph, Fallible.foldlM_eq_ok hstep]
  simp only [registered, List.mem_flatMap, List.mem_map]
  refine and_congr_left fun _ => ⟨?_, ?_⟩
  · rintro h _ ⟨entry, hentry, rel, hrel, rfl⟩
    exact h entry hentry rel hrel
  · exact fun h entry hentry rel hrel => h (entry.1, rel) ⟨entry, hentry, rel, hrel, rfl⟩

/-! ## The graph after a history -/

/-- **A graph depicts a history of registrations**: nothing is lost and nothing is made up. -/
structure Graph.Depicts (g : Graph) (history : List (String × List Relationship)) : Prop where
  /-- The edges and the registered relationships belong to each other one by one. -/
  stands : ∃ ps, ps.Perm (registered history) ∧ List.Forall₂ Edge.StandsFor g.edges ps
  /-- Between a model and a name the relationships are drawn in the order of registration. -/
  named : ∀ source name,
    g.Draws source (.str name) (leading (registered history) source (.str name))
  /-- So are they to whatever else is told apart from the other targets. -/
  draws : ∀ source target, target.Discerns ((registered history).map (·.2.target)) →
    g.Draws source target (leading (registered history) source target)
  /-- The nodes are models and targets. -/
  nodes_subset : g.nodes ⊆ mentioned history
  /-- Every model and every target is a node, or equals one. -/
  exists_node : ∀ v ∈ mentioned history, v ∈ g.nodes ∨ ∃ node ∈ g.nodes, v.same node = true
  /-- No node equals one before it. -/
  distinct : g.nodes.Pairwise fun v w => w.same v = false

/-- What is drawn for the registry after a history depicts the history. -/
theorem depicts_foldl_drawModel (history : List (String × List Relationship)) :
    Graph.Depicts ((ofHistory history).foldl Graph.drawModel {}) history := by
  have hshows : Graph.Shows ((ofHistory history).foldl Graph.drawModel {})
      (registered (ofHistory history)) := Graph.shows_empty.foldl_drawModel (ofHistory history)
  have hnodes : ((ofHistory history).foldl Graph.drawModel {}).nodes =
      Value.distinct (mentioned (ofHistory history)) :=
    Graph.nodes_foldl_drawModel {} (ofHistory history)
  have hperm := registered_ofHistory history
  have hdraws : ∀ source target, target.Discerns ((registered history).map (·.2.target)) →
      Graph.Draws ((ofHistory history).foldl Graph.drawModel {}) source target
        (leading (registered history) source target) := by
    intro source target hv
    rw [← leading_ofHistory]
    exact hshows.draws source target (hv.mono (hperm.map _).subset)
  constructor
  case stands => exact ⟨_, hperm, hshows.stands⟩
  case named => exact fun source name => hdraws source _ (Value.discerns_of_text? rfl _)
  case draws => exact hdraws
  case nodes_subset =>
    rw [hnodes]
    exact fun v hv => mem_mentioned_ofHistory.1 (Value.mem_of_mem_distinct hv)
  case exists_node =>
    rw [hnodes]
    exact fun v hv => Value.mem_distinct_or_same (mem_mentioned_ofHistory.2 hv)
  case distinct =>
    rw [hnodes]
    exact Value.pairwise_distinct _

/-- **The graph after any history of registrations.** It is drawn exactly when every target can be a
node, so always when targets are names. Then it depicts the history, and has as many edges as the
registry counts relationships. -/
theorem depicts_of_graph (history : List (String × List Relationship)) :
    ((∃ g, (ofHistory history).graph = .ok g) ↔
      ∀ p ∈ registered history, p.2.target.IsNode) ∧
    (LeadsToNames history → ∀ p ∈ registered history, p.2.target.IsNode) ∧
    ∀ g, (ofHistory history).graph = .ok g →
      g.Depicts history ∧ g.edges.length = (ofHistory history).size := by
  have hperm := registered_ofHistory history
  refine ⟨?_, ?_, ?_⟩
  · simp only [graph_eq_ok, hperm.mem_iff, exists_and_left, exists_eq', and_true]
  · intro h p hp
    obtain ⟨call, hcall, hp⟩ := List.mem_flatMap.1 hp
    obtain ⟨rel, hrel, rfl⟩ := List.mem_map.1 hp
    obtain ⟨s, hs⟩ := Option.isSome_iff_exists.1 (h call hcall rel hrel)
    exact Value.isNode_of_text? hs
  · intro g hg
    obtain ⟨-, rfl⟩ := graph_eq_ok.1 hg
    have hdepicts := depicts_foldl_drawModel history
    refine ⟨hdepicts, ?_⟩
    obtain ⟨ps, hps, hstands⟩ := hdepicts.stands
    rw [hstands.length_eq, hps.length_eq, ← hperm.length_eq, length_registered]

/-- The author of a post. -/
def authorOfPost : Relationship :=
  { kind := .belongsTo, target := .str "User", foreignKey := .str "authorId",
    targetAlias := .str "author" }

/-- The editor of a post. -/
def editorOfPost : Relationship :=
  { kind := .belongsTo, target := .str "User", foreignKey := .str "editorId",
    targetAlias := .str "editor" }

/-- Registrations of posts in two parts, with the author twice, a post that answers another, users
that lead back to posts, and tags that lead nowhere. -/
def postHistory : List (String × List Relationship) :=
  [("Post", [authorOfPost, { kind := .belongsTo, target := .str "Post" }]),
   ("User", [{ kind := .hasMany, target := .str "Post" }]),
   ("Tag", []),
   ("Post", [editorOfPost, authorOfPost])]

/-- The three ways from a post to a user are numbered in the order of registration, and the author
who is registered twice is reached by two of them. -/
theorem depicts_of_postHistory :
    LeadsToNames postHistory ∧
      ∃ g, (ofHistory postHistory).graph = .ok g ∧ g.Depicts postHistory ∧ g.edges.length = 5 ∧
        (g.between "Post" (.str "User")).map Edge.key = [0, 1, 2] ∧
        List.Forall₂ Edge.Carries (g.between "Post" (.str "User"))
          [authorOfPost, editorOfPost, authorOfPost] := by
  have hnames : LeadsToNames postHistory := by
    simp [LeadsToNames, postHistory, authorOfPost, editorOfPost, Value.text?]
  obtain ⟨hfound, hnodes, hspec⟩ := depicts_of_graph postHistory
  obtain ⟨g, hg⟩ := hfound.2 (hnodes hnames)
  obtain ⟨hdepicts, hsize⟩ := hspec g hg
  have hleading : leading (registered postHistory) "Post" (.str "User") =
      [authorOfPost, editorOfPost, authorOfPost] := by
    rw [leading_str]
    rfl
  have hdraws := hdepicts.named "Post" "User"
  rw [hleading] at hdraws
  exact ⟨hnames, g, hg, hdepicts, hsize, hdraws.keys, hdraws.carries⟩

end Registry

end Tablewright
