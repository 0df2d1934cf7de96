import Schematic.Proofs.Copies
import Schematic.Proofs.Cutting
import Schematic.Proofs.Sessions
import Schematic.Proofs.Visit

/-! A rendering warns where it shows a marker instead of a block. Two more places show one and do not warn: a
signature that goes too deep, and the row of a property that does not resolve. A rendering that neither warns
nor shows a marker in such a place has the same text under all other markers. -/
namespace Schematic

/-- The values whose signatures are shown in the block of an unwrapped value. -/
def Value.signed : Value → List Value
  | .node (.mk _ _ (.array element _ _ _)) => [.node element]
  | .node (.mk _ _ (.union options)) => options.map .node
  | .node (.mk _ _ (.record key value)) => [.node key, .node value]
  | .node (.mk _ _ (.tuple items rest)) => (Body.tuple items rest).children
  | .node (.mk _ _ (.object _)) => []
  | .node (.mk _ _ (.intersection _ _)) => []
  | .node (.mk _ _ (.enum _)) => []
  | .node (.mk _ _ (.literal _)) => []
  | v => [v]

/-- The values that have a row in the block of an unwrapped value. -/
def Value.tabled : Value → List Value
  | .node (.mk _ _ (.object properties)) => properties.map (·.2)
  | _ => []

section Looks

variable {config : Config} {look look' : Look}

theorem numberedParts_congr {ds : List Descriptor}
    (h : ∀ w ∈ ds.map Value.node, look.signature w = look'.signature w) (label : Text) (number : Nat) :
    numberedParts config look label number ds = numberedParts config look' label number ds := by
  induction ds generalizing number with
  | nil => rfl
  | cons d ds ih =>
    obtain ⟨hd, hds⟩ := List.forall_mem_cons.mp h
    rw [numberedParts, numberedParts, hd, ih hds]

theorem restParts_congr {rest : Value} (h : rest ≠ .null → look.signature rest = look'.signature rest) :
    restParts config look rest = restParts config look' rest := by
  cases rest with
  | null => rfl
  | _ => simp only [restParts, h Value.noConfusion]

theorem layoutWith_congr {v : Value} (hsigned : ∀ w ∈ v.signed, look.signature w = look'.signature w)
    (htabled : ∀ w ∈ v.tabled, look.cells w = look'.cells w) : layoutWith config look v = layoutWith config look' v := by
  cases v with
  | node d =>
    obtain ⟨i, description, body⟩ := d
    cases body with
    | object properties =>
      have hrow : ∀ entry ∈ properties, tableRow config look entry = tableRow config look' entry := by
        intro entry hentry
        rw [tableRow, tableRow, htabled entry.2 (List.mem_map_of_mem hentry)]
      have hrows : properties.mapM (tableRow config look) = properties.mapM (tableRow config look') :=
        mapM_eq_of_forall₂ (P := fun a b => tableRow config look a = tableRow config look' b)
          (List.forall₂_same.mpr hrow) fun _ _ h => h
      simp only [layoutWith, hrows]
    | array element => simp only [layoutWith, hsigned _ (List.mem_singleton_self _)]
    | union options => simp only [layoutWith, numberedParts_congr hsigned]
    | record key value =>
      simp only [layoutWith, hsigned (.node key) List.mem_cons_self,
        hsigned (.node value) (List.mem_cons_of_mem _ (List.mem_singleton_self _))]
    | tuple items rest =>
      have hitems : ∀ w ∈ items.map Value.node, look.signature w = look'.signature w := fun w hw =>
        hsigned w (Body.mem_children_tuple.mpr (.inl (List.mem_map.mp hw)))
      have hrest : rest ≠ .null → look.signature rest = look'.signature rest := fun hne =>
        hsigned rest (Body.mem_children_tuple.mpr (.inr ⟨rfl, hne⟩))
      simp only [layoutWith, numberedParts_congr hitems, restParts_congr hrest]
    | enum | intersection | literal => rfl
    | _ => simp only [layoutWith, hsigned _ (List.mem_singleton_self _)]
  | _ => simp only [layoutWith, hsigned _ (List.mem_singleton_self _)]

end Looks

/-- The configuration with other markers for what is too deep and for what does not resolve. -/
def Config.withCutMarkers (config : Config) (depth unresolved : Text) : Config :=
  { config with depthMarker := depth, unresolvedMarker := unresolved }

theorem Config.sameLayout_withCutMarkers (config : Config) (depth unresolved : Text) :
    (config.withCutMarkers depth unresolved).SameLayout config := ⟨rfl, rfl, rfl, rfl, rfl, rfl⟩

/-- Whether the signature of a value goes deeper than the limit. -/
def Config.cuts (config : Config) (v : Value) : Bool := v.isCutIn (Value.levels config.maxDepth 0)

variable {defs : Definitions} {config : Config}

theorem signature_withCutMarkers {v : Value} (h : config.cuts v = false) (depth unresolved : Text) :
    (config.withCutMarkers depth unresolved).signature v = config.signature v :=
  signatureIn_eq_of_not_cut h depth config.depthMarker

/-- What is shown beside the blocks below an unwrapped value has no marker for what is cut or does not resolve. -/
structure Config.ShowsWhole (defs : Definitions) (config : Config) (copy : Nat) (canonical : Value) : Prop where
  signatures : ∀ w ∈ canonical.signed, config.cuts w = false
  rows : ∀ w ∈ canonical.tabled, w.unwrapped defs config.maxDepth copy ≠ .error .unresolved
  types : ∀ w ∈ canonical.tabled, ∀ c, w.unwrapped defs config.maxDepth copy = .ok c → config.cuts c = false

theorem Config.ShowsWhole.layout_eq {copy : Nat} {canonical : Value} (h : config.ShowsWhole defs copy canonical)
    (depth unresolved : Text) :
    layout defs (config.withCutMarkers depth unresolved) copy canonical = layout defs config copy canonical := by
  rw [layout, layout, layoutWith_of_sameLayout (config.sameLayout_withCutMarkers depth unresolved)]
  refine layoutWith_congr (fun w hw => signature_withCutMarkers (h.signatures w hw) depth unresolved) fun w hw => ?_
  have htype : rowType defs (config.withCutMarkers depth unresolved) copy w = rowType defs config copy w := by
    have hlimit : (config.withCutMarkers depth unresolved).maxDepth = config.maxDepth := rfl
    rw [rowType_eq, rowType_eq, hlimit]
    cases hu : w.unwrapped defs config.maxDepth copy with
    | ok c => exact signature_withCutMarkers (h.types w hw c hu) depth unresolved
    | error mark =>
      cases mark with
      | recursion | gap => rfl
      | unresolved => exact (h.rows w hw hu).elim
  simp only [Config.look, htype]
  rfl

/-- The block of a child that is rendered has its records in the page. -/
theorem exists_block_of_renderParts {child : Value → Rendering} {parts : List Part} {page : Page}
    (h : renderParts child parts = .ok page) {v : Value} (hv : v ∈ blocks parts) :
    ∃ block : Page, child v = .ok block ∧ block.records ⊆ page.records := by
  induction parts generalizing page with
  | nil => simp at hv
  | cons part rest ih =>
    cases part with
    | text t =>
      rw [renderParts] at h
      cases hrest : renderParts child rest with
      | error e => simp [hrest, Except.map] at h
      | ok more =>
        rw [hrest] at h
        obtain rfl := Except.ok.inj h
        obtain ⟨block, hblock, hsub⟩ := ih hrest hv
        exact ⟨block, hblock, fun r hr => List.mem_append_right _ (hsub hr)⟩
    | block w =>
      rw [renderParts] at h
      cases hw : child w with
      | error e => simp [hw, bind, Except.bind] at h
      | ok first =>
        cases hrest : renderParts child rest with
        | error e => simp [hw, hrest, bind, Except.bind] at h
        | ok more =>
          rw [hw, hrest] at h
          obtain rfl := Except.ok.inj h
          rcases List.mem_cons.mp hv with rfl | hv
          · exact ⟨first, hw, fun r hr => List.mem_append_left _ hr⟩
          · obtain ⟨block, hblock, hsub⟩ := ih hrest hv
            exact ⟨block, hblock, fun r hr => List.mem_append_right _ (hsub hr)⟩

/-- No record of a page is a warning, or worse. -/
def Page.Quiet (page : Page) : Prop := ∀ r ∈ page.records, r.level.number < Level.warning.number

theorem Page.not_quiet_of_warning (message : Text) (page : Page) : ¬ (Page.log .warning message ++ page).Quiet :=
  fun h => lt_irrefl _ (h ⟨.warning, message⟩ List.mem_cons_self)

namespace Visit

/-- A visit and all that it makes show nothing that is cut or does not resolve beside the blocks. -/
def ShowsWhole (defs : Definitions) (config : Config) (visit : Visit) : Prop :=
  ∀ next, Makes defs config visit next → ∀ canonical copy, next.finding defs config = .opened canonical copy →
    config.ShowsWhole defs copy canonical

theorem ShowsWhole.nested {visit next : Visit} (h : visit.ShowsWhole defs config) (hnext : next ∈ visit.nested defs config) :
    next.ShowsWhole defs config := fun last hlast => h last (.head hnext hlast)

/-- A block without a warning has no marker for what is cut or does not resolve, if none is shown beside blocks. -/
theorem Renders.block_withCutMarkers {visit : Visit} {r : Rendering} (h : Renders defs config visit r) {page : Page}
    (hpage : r = .ok page) (hquiet : page.Quiet) (hwhole : visit.ShowsWhole defs config) (depth unresolved : Text) :
    visit.block defs (config.withCutMarkers depth unresolved) = .ok page := by
  induction h generalizing page with
  | visit visit block children ih =>
    have hfinding : visit.finding defs (config.withCutMarkers depth unresolved) = visit.finding defs config := rfl
    rw [block_eq]
    unfold blockWith at hpage ⊢
    rw [hfinding]
    cases hf : visit.finding defs config with
    | cycle v =>
      rw [hf] at hpage
      exact hpage
    | tooDeep =>
      rw [hf] at hpage
      obtain rfl := Except.ok.inj hpage
      exact (Page.not_quiet_of_warning _ _ hquiet).elim
    | failed failure =>
      rw [hf] at hpage
      obtain rfl := Except.ok.inj hpage
      cases failure with
      | unsaid why => rfl
      | _ => exact (Page.not_quiet_of_warning _ _ hquiet).elim
    | opened canonical copy =>
      have hlayout := (hwhole visit .refl canonical copy hf).layout_eq depth unresolved
      rw [hf] at hpage
      simp only [blockWith_eq, hlayout] at hpage ⊢
      cases hl : layout defs config copy canonical with
      | error e => simp [hl, Except.bind, Except.map] at hpage
      | ok parts =>
        simp only [hl, Except.bind] at hpage ⊢
        cases hparts : renderParts (fun v => block (visit.child canonical copy v)) parts with
        | error e => simp [hparts, Except.map] at hpage
        | ok inside =>
          rw [hparts] at hpage
          obtain rfl := Except.ok.inj hpage
          have hchild : ∀ v ∈ blocks parts,
              (visit.child canonical copy v).block defs (config.withCutMarkers depth unresolved) =
                block (visit.child canonical copy v) := by
            intro v hv
            have hnext : visit.child canonical copy v ∈ visit.nested defs config := by
              simp only [Visit.nested, hf, hl]
              exact List.mem_map_of_mem hv
            obtain ⟨page, hpage, hsub⟩ := exists_block_of_renderParts hparts hv
            rw [hpage]
            exact ih _ hnext hpage (fun r hr => hquiet r (List.mem_append_right _ (hsub hr))) (hwhole.nested hnext)
          rw [renderParts_congr hchild, hparts]
          rfl

end Visit

theorem Page.eq_of_whole {page page' : Page} (h : page.whole = .ok page') : page = page' := by
  unfold Page.whole at h
  split at h
  · cases h
  · exact Except.ok.inj h

theorem render_withCutMarkers {depth : Int} {v : Value} {page : Page} (h : render defs config depth v = .ok page)
    (hquiet : page.Quiet) (hwhole : Visit.ShowsWhole defs config ⟨depth, [], 1, v⟩) (cut unresolved : Text) :
    render defs (config.withCutMarkers cut unresolved) depth v = .ok page := by
  change (Visit.block defs config ⟨depth, [], 1, v⟩).bind Page.whole = .ok page at h
  change (Visit.block defs (config.withCutMarkers cut unresolved) ⟨depth, [], 1, v⟩).bind Page.whole = .ok page
  cases hblock : Visit.block defs config ⟨depth, [], 1, v⟩ with
  | error e => simp [hblock, Except.bind] at h
  | ok p =>
    rw [hblock] at h
    obtain rfl := Page.eq_of_whole h
    rw [(Visit.renders_block defs config _).block_withCutMarkers hblock hquiet hwhole, h]

namespace Session

/-- A renderer that lets warnings pass is quiet only if the rendering is. -/
theorem quiet_of_emitted (hlog : config.enableLogger = true) (hhigh : config.logLevel ≤ Level.warning.number) {page : Page}
    (h : Page.Quiet { page with records := config.emitted page.records }) : page.Quiet := by
  intro r hr
  by_contra hloud
  refine hloud (h r (List.mem_filter.mpr ⟨hr, ?_⟩))
  have : config.logLevel ≤ r.level.number := by omega
  simp [hlog, this]

/-- What a renderer shows without a warning is the same under all other markers for what is cut or does not resolve,
if no signature is cut and the properties in tables resolve. -/
theorem alone_withCutMarkers (hlog : config.enableLogger = true) (hlow : 1 ≤ config.logLevel)
    (hhigh : config.logLevel ≤ Level.warning.number) {depth : Int} {schema : Value} {page : Page}
    (hrun : alone defs config depth schema = .rendered (.ok page)) (hquiet : page.Quiet)
    (hwhole : Visit.ShowsWhole defs config ⟨depth, [], 1, schema⟩) (cut unresolved : Text) :
    alone defs (config.withCutMarkers cut unresolved) depth schema = .rendered (.ok page) := by
  rw [alone_eq] at hrun ⊢
  injection hrun with hrun
  cases hrender : Schematic.render defs config depth schema with
  | error e => simp [hrender, Except.map] at hrun
  | ok full =>
    rw [hrender] at hrun
    obtain rfl := Except.ok.inj hrun
    simp only [Registry.passing_configure _ hlow] at hquiet
    rw [render_withCutMarkers hrender (quiet_of_emitted hlog hhigh hquiet) hwhole]
    rfl

def opened (name text : Text) : Page :=
  Page.log .debug ("Rendering " ++ name ++ " descriptor at depth " ++ Text.ofInt 0) ++ Page.ofText text

theorem quiet_opened (name text : Text) :
    Page.Quiet { opened name text with records := config.emitted (opened name text).records } := by
  intro r hr
  obtain rfl := List.mem_singleton.mp (List.mem_filter.mp hr).1
  exact (by decide : Level.debug.number < Level.warning.number)

theorem alone_of_opened {v : Value} {name text : Text} (hblock : (Visit.top v).block defs config = .ok (opened name text))
    (htext : text.hasGap = false) (hlow : 1 ≤ config.logLevel) :
    alone defs config 0 v =
      .rendered (.ok { opened name text with records := config.emitted (opened name text).records }) := by
  have hwhole : (opened name text).whole = .ok (opened name text) := Page.whole_eq_ok htext
  rw [alone_eq, (render_of_block hblock).trans hwhole]
  simp only [Except.map, Registry.passing_configure _ hlow]

def lazyObject (getter : Action) : Descriptor :=
  .mk ⟨0, [], 0⟩ .null (.object [(.text "a", .node (.mk ⟨0, [1], 0⟩ .null (.lazy ⟨0, [0, 1], 0⟩ getter)))])

def lazyText (type : Text) : Text :=
  Table.header Config.standard.tableColumns ++ [Table.row ["a", type, "Yes", "", ""]].flatten

def selfDefinitions : Definitions := [.ok (.node (lazyObject (.shares 0)))]

theorem showsWhole_lazyObject : Visit.ShowsWhole selfDefinitions .standard (.top (.node (lazyObject (.shares 0)))) := by
  intro next hnext canonical copy hf
  have hnested : (Visit.top (.node (lazyObject (.shares 0)))).nested selfDefinitions .standard = [] := rfl
  rcases Relation.ReflTransGen.cases_head hnext with rfl | ⟨second, hsecond, _⟩
  · injection hf with hcanonical hcopy
    subst hcanonical hcopy
    have hunwrapped : ∀ w ∈ (Value.node (lazyObject (.shares 0))).tabled,
        w.unwrapped selfDefinitions Config.standard.maxDepth 1 = .ok (.node (lazyObject (.shares 0))) := by
      intro w hw
      obtain rfl := List.mem_singleton.mp hw
      rfl
    constructor
    · exact fun w hw => (List.not_mem_nil hw).elim
    · intro w hw hfailed
      cases (hunwrapped w hw).symm.trans hfailed
    · intro w hw c hc
      obtain rfl := Except.ok.inj ((hunwrapped w hw).symm.trans hc)
      rfl
  · rw [hnested] at hsecond
    exact (List.not_mem_nil hsecond).elim

theorem alone_lazyObject_withCutMarkers : ∃ page : Page,
    alone selfDefinitions .standard 0 (.node (lazyObject (.shares 0))) = .rendered (.ok page) ∧ page.Quiet ∧
      alone selfDefinitions (Config.standard.withCutMarkers "" "") 0 (.node (lazyObject (.shares 0))) =
        .rendered (.ok page) := by
  have hlow : 1 ≤ Config.standard.logLevel := by decide
  have hblock : (Visit.top (.node (lazyObject (.shares 0)))).block selfDefinitions .standard =
      .ok (opened "object" (lazyText "object")) := rfl
  have hrun := alone_of_opened hblock (by decide) hlow
  have hquiet : Page.Quiet { opened "object" (lazyText "object") with
      records := Config.standard.emitted (opened "object" (lazyText "object")).records } := quiet_opened _ _
  exact ⟨_, hrun, hquiet, alone_withCutMarkers rfl hlow le_rfl hrun hquiet showsWhole_lazyObject "" ""⟩

def failingObject : Descriptor := lazyObject (.raises (.mk "ValueError" [.text "x"]))

def deepArray : Descriptor :=
  .mk ⟨0, [], 0⟩ .null (.array (.mk ⟨0, [0], 0⟩ .null
    (.array (.mk ⟨0, [0, 0], 0⟩ .null (.string [])) .null .null .null)) .null .null .null)

/-- Without a warning, a table has the marker for a property that does not resolve, and a block the marker for what
its signatures go too deep for. -/
theorem alone_failingObject_ne :
    (Config.standard.enableLogger = true ∧ 1 ≤ Config.standard.logLevel ∧
      Config.standard.logLevel ≤ Level.warning.number ∧
      ∃ page page' : Page, alone [] .standard 0 (.node failingObject) = .rendered (.ok page) ∧ page.Quiet ∧
        alone [] (Config.standard.withCutMarkers Config.standard.depthMarker "?") 0 (.node failingObject) =
          .rendered (.ok page') ∧ page'.text ≠ page.text) ∧
    flatConfig.enableLogger = true ∧ 1 ≤ flatConfig.logLevel ∧ flatConfig.logLevel ≤ Level.warning.number ∧
      ∃ page page' : Page, alone [] flatConfig 0 (.node deepArray) = .rendered (.ok page) ∧ page.Quiet ∧
        alone [] (flatConfig.withCutMarkers "?" flatConfig.unresolvedMarker) 0 (.node deepArray) =
          .rendered (.ok page') ∧ page'.text ≠ page.text := by
  have hlow : 1 ≤ Config.standard.logLevel := by decide
  have hfailing : (Visit.top (.node failingObject)).block [] .standard =
      .ok (opened "object" (lazyText "<unresolved>")) := rfl
  have hfailing' : (Visit.top (.node failingObject)).block []
      (Config.standard.withCutMarkers Config.standard.depthMarker "?") = .ok (opened "object" (lazyText "?")) := rfl
  have hdeep : (Visit.top (.node deepArray)).block [] flatConfig = .ok (opened "array" "Array of <truncated>[]") := rfl
  have hdeep' : (Visit.top (.node deepArray)).block [] (flatConfig.withCutMarkers "?" flatConfig.unresolvedMarker) =
      .ok (opened "array" "Array of ?[]") := rfl
  refine ⟨⟨rfl, hlow, by decide, _, _, alone_of_opened hfailing (by decide) hlow, quiet_opened _ _,
      alone_of_opened hfailing' (by decide) hlow, by decide⟩,
    rfl, hlow, by decide, _, _, alone_of_opened hdeep (by decide) hlow, quiet_opened _ _,
    alone_of_opened hdeep' (by decide) hlow, by decide⟩

end Session
end Schematic
