import YamlAudit.Proofs.RangeMap.Find
import YamlAudit.Proofs.RangeMap.Chain

/-!
# RangeMap — passages

A passage (`RangeMap.Travels`) goes from a position along a path, one small step at a time: through
the target of an alias, or, where there is no target, into the child under the next segment.  It may
stop anywhere, and it keeps the positions it has left behind.  The hops of a passage are the starts
of those that are aliases.

Every walk is a passage along the longest prefix of its path that has one, taken as far as it goes
(`exists_travels`); what it can still meet behind a passage is what a walk from the end of the
passage meets (`Travels.walk`).

* `locate_longest_known`: `locate` gives for a path what it gives for the longest prefix of it that
  has a passage, whatever the segments behind the first unknown one are; and behind a passage it
  gives what it gives from the end of the passage, with the hops of the passage added in reverse.
-/

namespace YamlAudit

namespace RangeMap

/-- From `m` along a path to `n`, past the positions in the list. -/
inductive Travels : RangeMap → List Segment → List RangeMap → RangeMap → Prop
  | here (m : RangeMap) : Travels m [] [] m
  | through {m r n : RangeMap} {path : List Segment} {passed : List RangeMap}
      (target : m.target = some r) (on : Travels r path passed n) :
      Travels m path (m :: passed) n
  | into {m c n : RangeMap} {segment : Segment} {path : List Segment} {passed : List RangeMap}
      (plain : m.target = none) (child : m.child segment = some c) (on : Travels c path passed n) :
      Travels m (segment :: path) (m :: passed) n

/-- The places of the aliases among positions that were passed. -/
def hops (passed : List RangeMap) : List Location :=
  (passed.filter fun m => m.target.isSome).map fun m => m.value.start

theorem hops_cons_of_some {m r : RangeMap} (h : m.target = some r) (passed : List RangeMap) :
    hops (m :: passed) = m.value.start :: hops passed := by
  simp [hops, h]

theorem hops_cons_of_none {m : RangeMap} (h : m.target = none) (passed : List RangeMap) :
    hops (m :: passed) = hops passed := by
  simp [hops, h]

/-! ### A walk behind a passage -/

/-- A walk from an alias is the hop and the walk from its target. -/
theorem walk_of_target {m r : RangeMap} (h : m.target = some r) (path : List Segment) :
    m.walk path = (m.value.start :: (r.walk path).1, (r.walk path).2) := by
  obtain ⟨value, key, children, target⟩ := m
  cases h
  cases path with
  | nil => rfl
  | cons segment rest =>
      cases hc : r.follow.2.child segment with
      | none => rw [walk_cons_of_none hc, walk_cons_of_none (by exact hc), follow]
      | some next => rw [walk_cons_of_some hc, walk_cons_of_some (by exact hc), follow]; rfl

namespace Travels

variable {m n c : RangeMap} {path q : List Segment} {passed : List RangeMap}

/-- The walk along a longer path goes on from the end of the passage. -/
theorem walk (h : m.Travels path passed n) (q : List Segment) :
    m.walk (path ++ q) = (hops passed ++ (n.walk q).1, (n.walk q).2) := by
  induction h with
  | here => rfl
  | through target _ ih =>
      rw [walk_of_target target, ih, hops_cons_of_some target, List.cons_append]
  | @into m c n segment path passed plain child _ ih =>
      have hstay := follow_of_target_none plain
      have hnext : m.follow.2.child segment = some c := by rw [hstay, child]
      rw [List.cons_append, walk_cons_of_some hnext, ih, hstay, hops_cons_of_none plain,
        List.nil_append]

theorem append {passed' : List RangeMap} (h : m.Travels path passed c)
    (h' : c.Travels q passed' n) : m.Travels (path ++ q) (passed ++ passed') n := by
  induction h with
  | here => exact h'
  | through target _ ih => exact .through target (ih h')
  | into plain child _ ih => exact .into plain child (ih h')

/-- Where a passage ends at a position without the next segment, no passage leads further. -/
theorem not_travels (h : m.Travels path passed n) (hn : n.target = none) {segment : Segment}
    (hs : n.child segment = none) (rest : List Segment) :
    ¬ ∃ passed' n', m.Travels (path ++ segment :: rest) passed' n' := by
  rintro ⟨passed', n', h'⟩
  induction h generalizing passed' with
  | here =>
      cases h' with
      | through target => rw [hn] at target; cases target
      | into _ child => rw [hs] at child; cases child
  | through target _ ih =>
      generalize hp : _ ++ segment :: rest = p at h'
      cases h' with
      | here => exact absurd hp (by simp)
      | through target' on =>
          obtain rfl := Option.some.inj (target.symm.trans target')
          exact ih hn hs _ (hp ▸ on)
      | into plain => rw [target] at plain; cases plain
  | into plain child _ ih =>
      cases h' with
      | through target => rw [plain] at target; cases target
      | into _ child' on =>
          obtain rfl := Option.some.inj (child.symm.trans child')
          exact ih hn hs _ on

end Travels

/-- Through all targets there is a passage that takes no segment. -/
theorem exists_travels_nil (m : RangeMap) :
    ∃ passed n, m.Travels [] passed n ∧ n.target = none := by
  induction m using follow.induct with
  | case1 => exact ⟨[], _, .here _, rfl⟩
  | case2 value key children target hops landing _ ih =>
      obtain ⟨passed, n, h, hn⟩ := ih
      exact ⟨_, n, .through rfl h, hn⟩

/-- Along every path there is a passage to where no target leads on and where the path is done or
the next segment is unknown. -/
theorem exists_travels (m : RangeMap) (path : List Segment) :
    ∃ known rest passed n, path = known ++ rest ∧ m.Travels known passed n ∧ n.target = none ∧
      ∀ segment ∈ rest.head?, n.child segment = none := by
  induction path generalizing m with
  | nil =>
      obtain ⟨passed, n, h, hn⟩ := exists_travels_nil m
      exact ⟨[], [], passed, n, rfl, h, hn, fun _ hs => nomatch hs⟩
  | cons segment path ih =>
      obtain ⟨passed, n, h, hn⟩ := exists_travels_nil m
      cases hc : n.child segment with
      | none =>
          refine ⟨[], segment :: path, passed, n, rfl, h, hn, fun s hs => ?_⟩
          rwa [← Option.some.inj hs]
      | some next =>
          obtain ⟨known, rest, passed', n', rfl, h', hn', hrest⟩ := ih next
          exact ⟨segment :: known, rest, _, n', rfl, h.append (.into hn hc h'), hn', hrest⟩

/-- Such a passage is all of the walk. -/
theorem Travels.walk_eq {m n : RangeMap} {known : List Segment} {passed : List RangeMap}
    (h : m.Travels known passed n) (hn : n.target = none) (rest : List Segment)
    (hrest : ∀ segment ∈ rest.head?, n.child segment = none) :
    m.walk (known ++ rest) = (hops passed, n) := by
  have hstay := follow_of_target_none hn
  have hend : n.walk rest = ([], n) := by
    cases rest with
    | nil => exact hstay
    | cons segment rest =>
        rw [walk_cons_of_none (by rw [hstay]; exact hrest segment rfl), hstay]
  rw [h.walk, hend, List.append_nil]

/-! ### What a path is located by -/

/-- A path is located by the longest prefix of it that has a passage: by what is found at the end of
the passage, with the hops of the passage nearest first.  Segments behind an unknown one never
matter.  Behind a passage a path is located as it is from the end of the passage, with the hops of
the passage added, the nearest first. -/
theorem locate_longest_known (m : RangeMap) (path : List Segment) :
    (∃ known passed n, known <+: path ∧ m.Travels known passed n ∧ n.target = none ∧
      (∀ q passed' n', q <+: path → m.Travels q passed' n' → q <+: known) ∧
      ∀ a, m.locate path a = m.locate known a ∧
        m.locate path a = ⟨n.aspect a, (hops passed).reverse⟩) ∧
    (∀ segment, (¬ ∃ passed n, m.Travels (path ++ [segment]) passed n) →
      ∀ rest a, m.locate (path ++ segment :: rest) a = m.locate path a) ∧
    ∀ passed n, m.Travels path passed n → ∀ q a, m.locate (path ++ q) a =
      ⟨(n.locate q a).primary, (n.locate q a).via ++ (hops passed).reverse⟩ := by
  obtain ⟨known, rest, passed, n, rfl, h, hn, hrest⟩ := exists_travels m path
  have hpath := h.walk_eq hn rest hrest
  have hknown : m.walk known = (hops passed, n) := by
    simpa using h.walk_eq hn [] (fun _ hs => nomatch hs)
  refine ⟨⟨known, passed, n, List.prefix_append _ _, h, hn, fun q passed' n' hq h' => ?_,
    fun a => ?_⟩, fun segment hs more a => ?_, fun passed' n' h' q a => ?_⟩
  · -- a longer prefix would take the segment that is unknown at the end of the passage
    rcases List.prefix_or_prefix_of_prefix hq (List.prefix_append known rest) with hle | ⟨t, rfl⟩
    · exact hle
    · cases t with
      | nil => exact (List.append_nil known).symm ▸ List.prefix_rfl
      | cons segment t =>
          obtain ⟨u, hu⟩ := (List.prefix_append_right_inj known).mp hq
          exact absurd ⟨passed', n', h'⟩ (h.not_travels hn (hrest segment (by simp [← hu])) t)
  · simp only [locate, hpath, hknown, and_self]
  · -- the passage is that of the longer path too: its next segment is unknown, or it is `segment`
    have hmore : ∀ s ∈ (rest ++ segment :: more).head?, n.child s = none := by
      intro s hmem
      cases rest with
      | cons s' rest => exact hrest s hmem
      | nil =>
          obtain rfl := Option.some.inj hmem
          by_contra hc
          obtain ⟨c, hc⟩ := Option.ne_none_iff_exists'.mp hc
          exact hs ⟨_, c, (List.append_nil known).symm ▸ h.append (.into hn hc (.here c))⟩
    have hlonger := h.walk_eq hn _ hmore
    rw [List.append_assoc]
    simp only [locate, hpath, hlonger]
  · simp only [locate, h'.walk, List.reverse_append]

/-- The map of `&x {p: 1}`. -/
def anchored : RangeMap :=
  ⟨⟨⟨1, 4⟩, ⟨1, 13⟩, by decide⟩, none, [(.key "p", leaf ⟨⟨1, 11⟩, ⟨1, 12⟩, by decide⟩ none)], none⟩

/-- A map with an alias of a sequence whose item is an alias. -/
def relayed : RangeMap :=
  ⟨⟨⟨1, 1⟩, ⟨4, 1⟩, by decide⟩, none,
    [(.key "c", ⟨⟨⟨3, 4⟩, ⟨3, 6⟩, by decide⟩, none, [], some
      ⟨⟨⟨2, 4⟩, ⟨2, 11⟩, by decide⟩, none,
        [(.index 0, ⟨⟨⟨2, 8⟩, ⟨2, 10⟩, by decide⟩, none, [], some anchored⟩)], none⟩⟩)], none⟩

theorem locate_longest_known_relayed :
    (∃ passed, relayed.Travels [.key "c", .index 0] passed anchored ∧
      hops passed = [⟨3, 4⟩, ⟨2, 8⟩]) ∧
    (¬ ∃ passed n, relayed.Travels ([.key "c", .index 0] ++ [.key "q"]) passed n) ∧
    (∀ rest a, relayed.locate ([.key "c", .index 0] ++ .key "q" :: rest) a =
      relayed.locate [.key "c", .index 0] a) ∧
    ∀ q a, relayed.locate ([.key "c", .index 0] ++ q) a =
      ⟨(anchored.locate q a).primary, (anchored.locate q a).via ++ [⟨2, 8⟩, ⟨3, 4⟩]⟩ := by
  obtain ⟨-, hunknown, hbehind⟩ := locate_longest_known relayed [.key "c", .index 0]
  have htravels : ∃ passed, relayed.Travels [.key "c", .index 0] passed anchored ∧
      hops passed = [⟨3, 4⟩, ⟨2, 8⟩] :=
    ⟨_, .into rfl rfl (.through rfl (.into rfl rfl (.through rfl (.here _)))), rfl⟩
  obtain ⟨passed, hp, hhops⟩ := htravels
  have hend : anchored.child (.key "q") = none := rfl
  have hstop := hp.not_travels rfl hend []
  refine ⟨⟨passed, hp, hhops⟩, hstop, hunknown (.key "q") hstop, fun q a => ?_⟩
  rw [hbehind passed anchored hp q a, hhops]
  rfl

end RangeMap

end YamlAudit
