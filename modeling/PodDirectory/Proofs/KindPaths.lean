import Mathlib.Tactic.ByContra
import PodDirectory.Watch.Target

/-!
# The kinds are listed under different paths

The path of a kind has the watched namespace in it, and a namespace can hold any characters. It
can cut the path short, but not change how it begins: every path begins with ten characters that
belong to its kind alone (`Kind.fronts`), and plain characters arrive as they are. So the requests
of two kinds never have the same path (`Settings.kind_eq_of_path_eq`).
-/

namespace PodDirectory

/-- The plain front of a text arrives at the front of the path. -/
theorem Target.exists_path_eq {text : String} {target : Target} (h : ofText? text = some target)
    {front back : List Char} (htext : text.toList = front ++ back)
    (hfront : front.all isPlain = true) : ∃ rest, target.path.toList = front ++ rest := by
  have hplain : ∀ c ∈ front, c ≠ '?' ∧ c ≠ '#' := fun c hc => by
    have hc := List.all_eq_true.mp hfront c hc
    simp only [isPlain, Bool.and_eq_true, bne_iff_ne] at hc
    exact ⟨hc.1.2, hc.2⟩
  unfold ofText? at h
  dsimp only at h
  split at h
  · cases h
    rw [String.toList_ofList, htext,
      List.takeWhile_append_of_pos fun c hc => by simpa using (hplain c hc).2,
      List.takeWhile_append_of_pos fun c hc => by simpa using (hplain c hc).1]
    exact ⟨_, rfl⟩
  · cases h

namespace Kind

/-- How the paths of a kind can begin. -/
def fronts : Kind → List (List Char)
  | pod => ["/api/v1/po".toList, "/api/v1/na".toList]
  | node => ["/api/v1/no".toList]
  | endpointSlice => ["/apis/disc".toList]

/-- Every path of a kind begins in one of these ways. -/
theorem exists_front (k : Kind) (watchedNamespace : Option String) :
    ∃ front ∈ k.fronts, ∃ back, (k.path watchedNamespace).toList = front ++ back := by
  cases watchedNamespace with
  | none =>
    cases k with
    | pod => exact ⟨"/api/v1/po".toList, by simp [fronts], "ds".toList, by decide +kernel⟩
    | node => exact ⟨"/api/v1/no".toList, by simp [fronts], "des".toList, by decide +kernel⟩
    | endpointSlice =>
      exact ⟨"/apis/disc".toList, by simp [fronts], "overy.k8s.io/v1/endpointslices".toList,
        by decide +kernel⟩
  | some ns =>
    cases k with
    | node =>
      refine ⟨"/api/v1/no".toList, by simp [fronts], "des".toList, ?_⟩
      show (Kind.node.path none).toList = _
      decide +kernel
    | pod =>
      refine ⟨"/api/v1/na".toList, by simp [fronts],
        "mespaces/".toList ++ (ns.toList ++ "/pods".toList), ?_⟩
      show ("/api/v1" ++ ("/namespaces/" ++ ns) ++ "/" ++ "pods").toList = _
      simp only [String.toList_append, List.append_assoc]
      rfl
    | endpointSlice =>
      refine ⟨"/apis/disc".toList, by simp [fronts],
        "overy.k8s.io/v1/namespaces/".toList ++ (ns.toList ++ "/endpointslices".toList), ?_⟩
      show ("/apis/discovery.k8s.io/v1" ++ ("/namespaces/" ++ ns) ++ "/" ++
        "endpointslices").toList = _
      simp only [String.toList_append, List.append_assoc]
      rfl

theorem fronts_spec (k : Kind) :
    ∀ front ∈ k.fronts, front.length = 10 ∧ front.all Target.isPlain = true := by
  cases k <;> decide +kernel

theorem fronts_disjoint {j k : Kind} (hne : j ≠ k) : ∀ front ∈ j.fronts, front ∉ k.fronts := by
  cases j <;> cases k <;> first | exact absurd rfl hne | decide +kernel

end Kind

/-- **The kinds have different paths**, whatever namespace is watched. -/
theorem Settings.kind_eq_of_path_eq {settings : Settings} {j k : Kind} {target target' : Target}
    (h : settings.pageTarget? j = some target) (h' : settings.pageTarget? k = some target')
    (hpath : target.path = target'.path) : j = k := by
  by_contra hne
  obtain ⟨front, hfront, back, hback⟩ := j.exists_front settings.watchedNamespace
  obtain ⟨front', hfront', back', hback'⟩ := k.exists_front settings.watchedNamespace
  obtain ⟨hlength, hplain⟩ := j.fronts_spec front hfront
  obtain ⟨hlength', hplain'⟩ := k.fronts_spec front' hfront'
  have htext : (settings.path j ++ "?" ++ Target.pageQuery).toList
      = front ++ (back ++ '?' :: Target.pageQuery.toList) := by simp [path, hback]
  have htext' : (settings.path k ++ "?" ++ Target.pageQuery).toList
      = front' ++ (back' ++ '?' :: Target.pageQuery.toList) := by simp [path, hback']
  obtain ⟨rest, hrest⟩ := Target.exists_path_eq h htext hplain
  obtain ⟨rest', hrest'⟩ := Target.exists_path_eq h' htext' hplain'
  have heq : front ++ rest = front' ++ rest' := by rw [← hrest, ← hrest', hpath]
  obtain ⟨rfl, -⟩ := List.append_inj heq (hlength.trans hlength'.symm)
  exact Kind.fronts_disjoint hne front hfront hfront'

end PodDirectory
