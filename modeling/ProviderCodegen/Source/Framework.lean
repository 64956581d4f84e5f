import ProviderCodegen.Source.ImportSet

/-! # Packages of the provider framework

The paths of the packages that generated code may use, and the two groups of them that belong
together: the code of a value type, and the code of a conversion.
-/

namespace ProviderCodegen.Source.Framework

def types : String := "github.com/hashicorp/terraform-plugin-framework/types"
def basetypes : String := "github.com/hashicorp/terraform-plugin-framework/types/basetypes"
def attr : String := "github.com/hashicorp/terraform-plugin-framework/attr"
def diag : String := "github.com/hashicorp/terraform-plugin-framework/diag"
def validator : String := "github.com/hashicorp/terraform-plugin-framework/schema/validator"
def planModifier : String :=
  "github.com/hashicorp/terraform-plugin-framework/resource/schema/planmodifier"
def resourceSchema : String := "github.com/hashicorp/terraform-plugin-framework/resource/schema"
def boolDefault : String :=
  "github.com/hashicorp/terraform-plugin-framework/resource/schema/booldefault"
def float64Default : String :=
  "github.com/hashicorp/terraform-plugin-framework/resource/schema/float64default"
def int64Default : String :=
  "github.com/hashicorp/terraform-plugin-framework/resource/schema/int64default"
def stringDefault : String :=
  "github.com/hashicorp/terraform-plugin-framework/resource/schema/stringdefault"
def tftypes : String := "github.com/hashicorp/terraform-plugin-go/tftypes"
def context : String := "context"
def fmt : String := "fmt"

/-- What the methods that convert to and from an external type use. -/
def conversionImports : ImportSet :=
  .ofPaths [basetypes, attr, tftypes, diag, fmt, context]

def valueTypeImports : ImportSet :=
  .ofPaths [types, basetypes, attr, diag, tftypes, context, fmt]

end ProviderCodegen.Source.Framework
