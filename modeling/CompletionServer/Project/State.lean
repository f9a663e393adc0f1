/-!
# Project state

What a project definition says about how its sources are compiled. A state is built whole and never
changed.
-/

namespace CompletionServer.Project

/-- How the sources of a project are compiled. -/
structure State where
  projectFile : String
  moduleName : String
  sdkRoot : String
  platformTarget : Option String
  frameworkSearchPaths : List String
  compilerFlags : List String
  sourceFiles : List String
  deriving DecidableEq, Repr, Inhabited

end CompletionServer.Project
