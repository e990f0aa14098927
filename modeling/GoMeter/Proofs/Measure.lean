import GoMeter.Measure
import GoMeter.Proofs.Outcome
import GoMeter.Proofs.Syntax.Traversal

/-!
# The functions of a file and their records

* `measure_eq_ok_iff`: a file that is not refused has one record for each function.
* `Node.functionSites`: the functions of a file, each with its site.
-/

namespace GoMeter

/-! ## Records -/

/-- What is known of a file whose lines are numbered by `lines`. -/
def FileFacts.ofFile (src : Source) (root : Node) (lines : LineMap) : FileFacts :=
  ⟨src, lines, resolve src root, .ofRoot src lines root⟩

/-- A file whose directives are well formed has one record for each function, and it has records in no
other case. -/
theorem measure_eq_ok_iff {src : Source} {root : Node} {records : List FunctionRecord} :
    measure src root = .ok records ↔ ∃ lines, lineMap src root = .ok lines ∧
      root.functions.map (FileFacts.ofFile src root lines).record = records := by
  constructor
  · intro h
    obtain ⟨lines, hlines, h⟩ := exists_of_bind_ok h
    exact ⟨lines, hlines, Except.ok.inj h⟩
  · rintro ⟨lines, hlines, rfl⟩
    rw [measure, hlines]
    rfl

/-! ## The functions of a file -/

namespace Node

/-- The functions below a root, each with its site. -/
def functionSites (root : Node) : List Site := (Site.root root).named.filter (·.node.isFunction)

variable {root : Node} {f : Site}

@[simp] theorem map_node_functionSites (root : Node) :
    root.functionSites.map Site.node = root.functions := by
  rw [functionSites, Site.map_node_filter Node.isFunction, Site.map_node_named, functions]
  rfl

theorem nodup_functionSites (root : Node) : root.functionSites.Nodup :=
  (Site.nodup_named _).filter _

theorem at?_of_mem_functionSites (hf : f ∈ root.functionSites) :
    root.at? f.way = some f.node :=
  Site.at?_of_mem_named (s := Site.root root) rfl (List.mem_filter.mp hf).1

theorem length_way_of_mem_functionSites (hf : f ∈ root.functionSites) : 0 < f.way.length :=
  Site.length_way_of_mem_named (s := Site.root root) (List.mem_filter.mp hf).1

theorem isFunction_of_mem_functionSites (hf : f ∈ root.functionSites) : f.node.isFunction :=
  (List.mem_filter.mp hf).2

end Node

end GoMeter
