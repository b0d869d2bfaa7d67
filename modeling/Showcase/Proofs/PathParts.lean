import Mathlib.Data.List.TakeWhile
import Showcase.FileInfo

namespace Showcase

section Cut

variable {α : Type} {c : α} {l : List α}

theorem reverse_append_cons (l r : List α) (c : α) :
    (l ++ c :: r).reverse = r.reverse ++ c :: l.reverse := by
  rw [List.reverse_append, List.reverse_cons, List.append_assoc, List.singleton_append]

theorem false_of_mem_head?_dropWhile {p : α → Bool} (h : c ∈ (l.dropWhile p).head?) :
    p c = false := by
  have hstop := List.head?_dropWhile_not p l
  rwa [Option.mem_def.1 h] at hstop

variable [DecidableEq α]

theorem takeWhile_ne_of_notMem (h : c ∉ l) : l.takeWhile (· ≠ c) = l := by
  refine List.takeWhile_eq_self_iff.2 fun x hx ↦ ?_
  have hne : x ≠ c := fun hxc ↦ h (hxc ▸ hx)
  simpa using hne

theorem takeWhile_ne_append (h : c ∉ l) (r : List α) : (l ++ c :: r).takeWhile (· ≠ c) = l := by
  rw [List.takeWhile_append_of_pos (List.takeWhile_eq_self_iff.1 (takeWhile_ne_of_notMem h)),
    List.takeWhile_cons_of_neg (by simp), List.append_nil]

theorem dropWhile_ne_append (h : c ∉ l) (r : List α) :
    (l ++ c :: r).dropWhile (· ≠ c) = c :: r := by
  rw [List.dropWhile_append_of_pos (List.takeWhile_eq_self_iff.1 (takeWhile_ne_of_notMem h)),
    List.dropWhile_cons_of_neg (by simp)]

end Cut

section Segments

variable {before dir segment : List Char}

theorem lastSegment_of_notMem (h : '/' ∉ segment) : lastSegment segment = segment := by
  rw [lastSegment, takeWhile_ne_of_notMem (by simpa using h), List.reverse_reverse]

theorem lastSegment_append_cons (h : '/' ∉ segment) (dir : List Char) :
    lastSegment (dir ++ '/' :: segment) = segment := by
  rw [lastSegment, reverse_append_cons, takeWhile_ne_append (by simpa using h),
    List.reverse_reverse]

theorem directory_append_cons (h : '/' ∉ segment) (dir : List Char) :
    directory (dir ++ '/' :: segment) = dir := by
  rw [directory, reverse_append_cons, dropWhile_ne_append (by simpa using h)]
  exact List.reverse_reverse dir

theorem directory_of_notMem (h : '/' ∉ segment) : directory segment = ['.'] := by
  have hall : segment.reverse.dropWhile (· ≠ '/') = [] :=
    List.dropWhile_eq_nil_iff.2 (List.takeWhile_eq_self_iff.1
      (takeWhile_ne_of_notMem (by simpa using h)))
  rw [directory, hall]

/-- A path that has a separator has a last one. -/
theorem exists_last_separator {path : List Char} (h : '/' ∈ path) :
    ∃ dir segment, path = dir ++ '/' :: segment ∧ '/' ∉ segment := by
  obtain ⟨after, prior, hpath, hafter⟩ := List.eq_append_cons_of_mem (List.mem_reverse.2 h)
  refine ⟨prior.reverse, after.reverse, ?_, by simpa using hafter⟩
  simpa using congrArg List.reverse hpath

theorem lastSegment_append (hbefore : ∀ c ∈ before.getLast?, c = '/') (h : '/' ∉ segment) :
    lastSegment (before ++ segment) = segment := by
  rcases List.eq_nil_or_concat before with rfl | ⟨dir, c, rfl⟩
  · exact lastSegment_of_notMem h
  · obtain rfl := hbefore c (by simp)
    rw [List.concat_eq_append, List.append_assoc]
    exact lastSegment_append_cons h dir

theorem exists_last_segment (path : List Char) : ∃ before segment,
    path = before ++ segment ∧ (∀ c ∈ before.getLast?, c = '/') ∧ '/' ∉ segment := by
  by_cases h : '/' ∈ path
  · obtain ⟨dir, segment, rfl, hsegment⟩ := exists_last_separator h
    exact ⟨dir ++ ['/'], segment, by simp, by simp [eq_comm], hsegment⟩
  · exact ⟨[], path, rfl, by simp, h⟩

end Segments

namespace FileInfo

/-- The name of a file, without dots, and its extensions. -/
structure IsBase (name rest : List Char) : Prop where
  plain_name : ∀ c ∈ name, c ≠ '.' ∧ c ≠ '/'
  plain_rest : '/' ∉ rest
  rest_start : ∀ c ∈ rest.head?, c = '.'

/-- The last part of a directory, without its leading dots, and what stands before it. -/
structure IsDirectory (before dots parent : List Char) : Prop where
  before_end : ∀ c ∈ before.getLast?, c = '/'
  all_dots : ∀ c ∈ dots, c = '.'
  plain_parent : '/' ∉ parent
  parent_start : ∀ c ∈ parent.head?, c ≠ '.'

/-- A path with a separator is put together from a directory and a file in it, any other path is a
file without a parent. -/
def Splits (path parent name : String) : Prop :=
  if '/' ∈ path.toList then
    ∃ before dots rest,
      path.toList = before ++ dots ++ parent.toList ++ ['/'] ++ name.toList ++ rest ∧
        IsDirectory before dots parent.toList ∧ IsBase name.toList rest
  else parent = "" ∧ ∃ rest, path.toList = name.toList ++ rest ∧ IsBase name.toList rest

section Parts

variable {before dots parent name rest segment : List Char}

theorem IsBase.slash_notMem (h : IsBase name rest) : '/' ∉ name ++ rest := by
  rw [List.mem_append, not_or]
  exact ⟨fun hname ↦ (h.plain_name _ hname).2 rfl, h.plain_rest⟩

theorem IsBase.takeWhile_eq (h : IsBase name rest) : (name ++ rest).takeWhile (· ≠ '.') = name := by
  have hname : '.' ∉ name := fun hdot ↦ (h.plain_name _ hdot).1 rfl
  cases rest with
  | nil => rw [List.append_nil, takeWhile_ne_of_notMem hname]
  | cons c cs =>
    obtain rfl : c = '.' := h.rest_start c rfl
    rw [takeWhile_ne_append hname]

theorem isBase_takeWhile (h : '/' ∉ segment) :
    IsBase (segment.takeWhile (· ≠ '.')) (segment.dropWhile (· ≠ '.')) where
  plain_name c hc := by
    have hdot : c ≠ '.' := by simpa using List.mem_takeWhile_imp hc
    have hslash : c ≠ '/' := fun hcs ↦ h (hcs ▸ (List.takeWhile_prefix _).subset hc)
    exact ⟨hdot, hslash⟩
  plain_rest hslash := h ((List.dropWhile_suffix _).subset hslash)
  rest_start c hc := by simpa using false_of_mem_head?_dropWhile hc

theorem IsDirectory.dropWhile_eq (h : IsDirectory before dots parent) :
    (dots ++ parent).dropWhile (· = '.') = parent := by
  rw [List.dropWhile_append_of_pos (by simpa using h.all_dots)]
  cases parent with
  | nil => rfl
  | cons c cs =>
    have hc : c ≠ '.' := h.parent_start c rfl
    exact List.dropWhile_cons_of_neg (by simpa using hc)

theorem IsDirectory.lastSegment_eq (h : IsDirectory before dots parent) :
    lastSegment (before ++ (dots ++ parent)) = dots ++ parent := by
  refine lastSegment_append h.before_end ?_
  rw [List.mem_append, not_or]
  exact ⟨fun hdots ↦ absurd (h.all_dots _ hdots) (by decide), h.plain_parent⟩

theorem isDirectory_dropWhile (hbefore : ∀ c ∈ before.getLast?, c = '/') (h : '/' ∉ segment) :
    IsDirectory before (segment.takeWhile (· = '.')) (segment.dropWhile (· = '.')) where
  before_end := hbefore
  all_dots c hc := by simpa using List.mem_takeWhile_imp hc
  plain_parent hslash := h ((List.dropWhile_suffix _).subset hslash)
  parent_start c hc := by simpa using false_of_mem_head?_dropWhile hc

end Parts

theorem splits_ofPath (path : String) : Splits path (ofPath path).parent (ofPath path).name := by
  by_cases h : '/' ∈ path.toList
  · obtain ⟨dir, base, hpath, hbase⟩ := exists_last_separator h
    obtain ⟨before, segment, rfl, hbefore, hsegment⟩ := exists_last_segment dir
    rw [Splits, if_pos h, ofPath, hpath, lastSegment_append_cons hbase, directory_append_cons hbase,
      lastSegment_append hbefore hsegment, String.toList_ofList, String.toList_ofList]
    refine ⟨before, segment.takeWhile (· = '.'), base.dropWhile (· ≠ '.'), ?_,
      isDirectory_dropWhile hbefore hsegment, isBase_takeWhile hbase⟩
    calc before ++ segment ++ '/' :: base
      _ = before ++ (segment.takeWhile (· = '.') ++ segment.dropWhile (· = '.')) ++
          '/' :: (base.takeWhile (· ≠ '.') ++ base.dropWhile (· ≠ '.')) := by
        rw [List.takeWhile_append_dropWhile, List.takeWhile_append_dropWhile]
      _ = _ := by simp only [List.append_assoc, List.cons_append, List.nil_append]
  · have hnone : lastSegment ['.'] = ['.'] := lastSegment_of_notMem (by decide)
    rw [Splits, if_neg h, ofPath, lastSegment_of_notMem h, directory_of_notMem h, hnone,
      String.toList_ofList]
    exact ⟨rfl, _, List.takeWhile_append_dropWhile.symm, isBase_takeWhile h⟩

theorem ofPath_of_splits {path parent name : String} (h : Splits path parent name) :
    ofPath path = ⟨name, parent, path⟩ := by
  rw [Splits] at h
  split at h
  · obtain ⟨before, dots, rest, hpath, hdirectory, hbase⟩ := h
    have hcut : path.toList =
        (before ++ (dots ++ parent.toList)) ++ '/' :: (name.toList ++ rest) := by simp [hpath]
    rw [ofPath, hcut, lastSegment_append_cons hbase.slash_notMem,
      directory_append_cons hbase.slash_notMem, hbase.takeWhile_eq, hdirectory.lastSegment_eq,
      hdirectory.dropWhile_eq, String.ofList_toList, String.ofList_toList]
  · obtain ⟨rfl, rest, hpath, hbase⟩ := h
    have hnone : lastSegment ['.'] = ['.'] := lastSegment_of_notMem (by decide)
    rw [ofPath, hpath, lastSegment_of_notMem hbase.slash_notMem,
      directory_of_notMem hbase.slash_notMem, hbase.takeWhile_eq, hnone, String.ofList_toList]
    rfl

theorem Splits.isBase {path parent name : String} (h : Splits path parent name) :
    ∃ rest, IsBase name.toList rest := by
  rw [Splits] at h
  split at h
  · obtain ⟨before, dots, rest, -, -, hbase⟩ := h
    exact ⟨rest, hbase⟩
  · obtain ⟨-, rest, -, hbase⟩ := h
    exact ⟨rest, hbase⟩

theorem slash_notMem_name (path : String) : '/' ∉ (ofPath path).name.toList := by
  obtain ⟨rest, hbase⟩ := (splits_ofPath path).isBase
  exact fun hslash ↦ (hbase.plain_name _ hslash).2 rfl

/-- In one way only is a path put together from a directory and a file in it: the parent is the
directory's last part without its leading dots, the name is the file's up to its first dot, whatever
segments are empty, hidden or made of dots. A file is described by these two and by its path. -/
theorem splits_one_way (path : String) :
    (∀ parent name, Splits path parent name ↔
      parent = (ofPath path).parent ∧ name = (ofPath path).name) ∧
    (ofPath path).file = path := by
  refine ⟨fun parent name ↦ ⟨fun h ↦ ?_, ?_⟩, rfl⟩
  · rw [ofPath_of_splits h]
    exact ⟨rfl, rfl⟩
  · rintro ⟨rfl, rfl⟩
    exact splits_ofPath path

example : ofPath "../.a/./..b/.c.d" = ⟨"", "b", "../.a/./..b/.c.d"⟩ := by decide

end FileInfo

end Showcase
