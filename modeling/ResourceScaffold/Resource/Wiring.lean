import ResourceScaffold.Code.Basic
import ResourceScaffold.Resource.Service

/-!
# Wiring modules

The wiring module of a resource puts its service behind the router of its controller.
-/

namespace ResourceScaffold

open Code

/-- The name of the wiring class of an entity. -/
def wiringClass (entityType : String) : String :=
  entityType ++ "Module"

/-- The wiring module of an entity at a path, for the service and controller modules at the other two. -/
def wiringModule (path entityType service controller : String) : SourceModule :=
  { path
    body :=
      [.importNames { origin := .library "typing", names := ["Optional"] },
       .blank,
       .importNames { origin := .library "fastapi", names := ["FastAPI"] },
       .blank,
       .importNames { origin := .generated controller, names := ["get_service", "router"] },
       .importNames { origin := .generated service, names := [serviceClass entityType] },
       .blank,
       .blank,
       .define {
         name := wiringClass entityType
         bases := []
         members :=
           [.documentation ("Registers the " ++ entityType ++ " router with its service."),
            .blank,
            .method
              ["def __init__(self, service: Optional[" ++ serviceClass entityType ++ "] = None):",
               "    self.service = service or " ++ serviceClass entityType ++ "()",
               "    self.router = router"],
            .blank,
            .method
              ["def register(self, app: FastAPI) -> None:",
               "    app.include_router(self.router)",
               "    app.dependency_overrides[get_service] = lambda: self.service"]] }]
    dependencies := [service, controller] }

end ResourceScaffold
