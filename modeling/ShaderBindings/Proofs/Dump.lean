/-
  What loading a dump ensures: the output that it has under a name is for the language of that
  name (`Backends.ByName`, `byName_of_ofJson`), which is a supported one (`listed_of_ofJson`).
  That the output holds what programs and shaders ask for is checked later
  (`Proofs.Consistency`).
-/
import ShaderBindings.Dump.Model
import ShaderBindings.Proofs.Fallible
import ShaderBindings.Proofs.Keyed

namespace ShaderBindings

open Fallible

/-- Output is under the name of its language. -/
def Backends.ByName (backends : Backends) : Prop :=
  ∀ name b, backends.get? name = some b → b.slang.name = name

namespace Dump

variable {read : TextReader}

theorem backend_slang {slang : Slang} {v : Json} {b : BackendOutput}
    (h : backend read slang v = .ok b) : b.slang = slang := by
  unfold backend at h
  obtain ⟨sources, -, h⟩ := bind_eq_ok.mp h
  obtain ⟨bytecode, -, h⟩ := bind_eq_ok.mp h
  obtain ⟨fields, -, h⟩ := bind_eq_ok.mp h
  obtain ⟨blobs, -, h⟩ := bind_eq_ok.mp h
  obtain rfl := pure_eq_ok.mp h
  rfl

theorem namedBackend_eq_ok {entry : String × Json} {found : String × BackendOutput} :
    namedBackend read entry = .ok found ↔ ∃ slang b, Slang.ofName? entry.1 = some slang ∧
      backend read slang entry.2 = .ok b ∧ found = (entry.1, b) := by
  unfold namedBackend
  cases Slang.ofName? entry.1 with
  | none => simp
  | some slang =>
    simp only [Option.some.injEq, exists_and_left, exists_eq_left', bind_eq_ok, pure_eq_ok,
      eq_comm (b := found)]

theorem namedBackend_name {entry : String × Json} {found : String × BackendOutput}
    (h : namedBackend read entry = .ok found) : found.2.slang.name = found.1 := by
  obtain ⟨slang, b, hslang, hb, rfl⟩ := namedBackend_eq_ok.mp h
  have hname : slang.name = entry.1 := by
    unfold Slang.ofName? at hslang
    simpa using List.find?_some hslang
  rw [backend_slang hb, hname]

theorem namedBackend_listed {entry : String × Json} {found : String × BackendOutput}
    (h : namedBackend read entry = .ok found) : found.2.slang ∈ Slang.table := by
  obtain ⟨slang, b, hslang, hb, rfl⟩ := namedBackend_eq_ok.mp h
  rw [backend_slang hb]
  exact List.mem_of_find?_eq_some hslang

section

variable {basePath : String} {v : Json} {d : Dump}

/-- The output in a dump comes from its entries. -/
theorem exists_namedBackend_of_ofJson (h : ofJson basePath v = .ok d) {name : String}
    {b : BackendOutput} (hb : d.backends.get? name = some b) :
    ∃ entry, namedBackend Json.asText entry = .ok (name, b) := by
  unfold ofJson ofJsonBy at h
  obtain ⟨path, -, h⟩ := bind_eq_ok.mp h
  obtain ⟨moduleName, -, h⟩ := bind_eq_ok.mp h
  obtain ⟨snippets, -, h⟩ := bind_eq_ok.mp h
  obtain ⟨programs, -, h⟩ := bind_eq_ok.mp h
  obtain ⟨field, -, h⟩ := bind_eq_ok.mp h
  obtain ⟨entries, -, h⟩ := bind_eq_ok.mp h
  obtain ⟨backends, hbackends, h⟩ := bind_eq_ok.mp h
  obtain ⟨headers, -, h⟩ := bind_eq_ok.mp h
  obtain ⟨verbatim, -, h⟩ := bind_eq_ok.mp h
  obtain ⟨ctypes, -, h⟩ := bind_eq_ok.mp h
  obtain ⟨hosts, -, h⟩ := bind_eq_ok.mp h
  obtain rfl := pure_eq_ok.mp h
  obtain ⟨entry, -, hentry⟩ := exists_of_forall₂_right (mapM_eq_ok.mp hbackends)
    (Keyed.mem_of_get? hb)
  exact ⟨entry, hentry⟩

/-- In a dump, output is under the name of its language. -/
theorem byName_of_ofJson (h : ofJson basePath v = .ok d) : d.backends.ByName := by
  intro name b hb
  obtain ⟨entry, hentry⟩ := exists_namedBackend_of_ofJson h hb
  exact namedBackend_name hentry

/-- In a dump, output is for supported languages. -/
theorem listed_of_ofJson (h : ofJson basePath v = .ok d) {name : String} {b : BackendOutput}
    (hb : d.backends.get? name = some b) : b.slang ∈ Slang.table := by
  obtain ⟨entry, hentry⟩ := exists_namedBackend_of_ofJson h hb
  exact namedBackend_listed hentry

end

end Dump

end ShaderBindings
