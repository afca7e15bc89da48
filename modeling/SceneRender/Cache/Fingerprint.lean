import SceneRender.Generation.Request
import SceneRender.Render.Quality
import SceneRender.Text.Sha256

/-!
# Fingerprints

Two requests that would give the same result have the same canonical text, and
the fingerprint of a request is the digest of that text.  A version tag in front
keeps results apart that were made under different rules.  A key also names the
kind of result.
-/

namespace SceneRender

open SceneRender.Text

/-- The digest of a canonical text. -/
def fingerprint (canonical : String) : String := Sha256.hex canonical.toUTF8.data.toList

/-- The canonical text of a request for generated code. -/
def generationCanonical (provider model request : String) : String :=
  "gen:v3:" ++ provider ++ ":" ++ model ++ ":" ++ request

/-- The canonical text of a request for a video. -/
def renderCanonical (quality : Quality) (code : String) : String :=
  "render:v2:" ++ quality.name ++ ":" ++ code

/-- The kinds of cached results. -/
inductive CacheNamespace where
  /-- Generated code by its request. -/
  | generation
  /-- The job that made a video by what was rendered. -/
  | render
  deriving DecidableEq, Repr

/-- How the keys of a kind begin. -/
def CacheNamespace.keyStart : CacheNamespace → String
  | generation => "cache:generate"
  | render => "cache:render"

/-- The key of a fingerprint. -/
def CacheNamespace.key (ns : CacheNamespace) (fingerprint : String) : String :=
  ns.keyStart ++ ":" ++ fingerprint

end SceneRender
